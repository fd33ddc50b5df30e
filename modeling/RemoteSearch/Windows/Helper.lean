/-!
# The helper module

The commands that searches on Windows hosts call. The module is loaded into a session before the
first search.
-/

namespace RemoteSearch.Windows

/-- The name under which the helper module is loaded. -/
def helperName : String := "FileSearcher"

/-- The lines of the helper module. -/
def helperLines : List String := [
  "# Search helpers loaded into every PowerShell session before the first search.",
  "# Records are printed brace-delimited, one \"Key: value\" per line; paths are",
  "# base64-encoded UTF-8 so they survive any console encoding.",
  "",
  "function Get-Children \x7b",
  "    param(",
  "        [String]$Path,",
  "        [int]$Depth",
  "    )",
  "    $children = Get-ChildItem -LiteralPath $Path -Force -ErrorAction SilentlyContinue",
  "    foreach ($child in $children) \x7b",
  "        $child",
  "        $isReparse = ($child.Attributes -band [IO.FileAttributes]::ReparsePoint) -ne 0",
  "        if ($child.PSIsContainer -and -not $isReparse -and $Depth -ne 1) \x7b",
  "            Get-Children -Path $child.FullName -Depth ($Depth - 1)",
  "        \x7d",
  "    \x7d",
  "\x7d",
  "",
  "function Get-Candidates \x7b",
  "    param(",
  "        [String]$Path,",
  "        [int]$Depth",
  "    )",
  "    if ($Depth -eq 0) \x7b",
  "        Get-Item -LiteralPath $Path -Force -ErrorAction SilentlyContinue",
  "    \x7d else \x7b",
  "        Get-Children -Path $Path -Depth $Depth",
  "    \x7d",
  "\x7d",
  "",
  "function Find-Files \x7b",
  "    param(",
  "        [Parameter(Mandatory=$true, ValueFromPipelineByPropertyName=$true)]",
  "        [Alias(\"FullName\")]",
  "        [String]$Path,",
  "        [String]$Pattern = \"\",",
  "        [String]$LiteralFilename = \"\",",
  "        [String]$Filename = \"\",",
  "        [int]$Depth = -1",
  "    )",
  "    PROCESS \x7b",
  "        foreach ($item in (Get-Candidates -Path $Path -Depth $Depth)) \x7b",
  "            if ($item.PSIsContainer) \x7b continue \x7d",
  "            if ($Pattern -ne \"\" -and $item.FullName -notmatch $Pattern) \x7b continue \x7d",
  "            if ($LiteralFilename -ne \"\" -and $item.Name -ne $LiteralFilename) \x7b continue \x7d",
  "            if ($Filename -ne \"\" -and $item.Name -notmatch $Filename) \x7b continue \x7d",
  "            $item",
  "        \x7d",
  "    \x7d",
  "\x7d",
  "",
  "function Find-Directories \x7b",
  "    param(",
  "        [Parameter(Mandatory=$true, ValueFromPipelineByPropertyName=$true)]",
  "        [Alias(\"FullName\")]",
  "        [String]$Path,",
  "        [String]$Pattern = \"\",",
  "        [int]$Depth = -1",
  "    )",
  "    PROCESS \x7b",
  "        foreach ($item in (Get-Candidates -Path $Path -Depth $Depth)) \x7b",
  "            if (-not $item.PSIsContainer) \x7b continue \x7d",
  "            if ($Pattern -ne \"\" -and $item.FullName -notmatch $Pattern) \x7b continue \x7d",
  "            $item",
  "        \x7d",
  "    \x7d",
  "\x7d",
  "",
  "function ConvertTo-Base64 \x7b",
  "    param([String]$Text)",
  "    [Convert]::ToBase64String([Text.Encoding]::UTF8.GetBytes($Text))",
  "\x7d",
  "",
  "function Print-FileInfo \x7b",
  "    param(",
  "        [Parameter(Mandatory=$true, ValueFromPipeline=$true)]",
  "        [PSObject]$Item",
  "    )",
  "    PROCESS \x7b",
  "        \"\x7b\"",
  "        if ($Item.PSIsContainer) \x7b \"Type: Directory\" \x7d else \x7b \"Type: File\" \x7d",
  "        \"Path: \" + (ConvertTo-Base64 $Item.FullName)",
  "        \"Ctime: \" + $Item.CreationTimeUtc.ToFileTimeUtc()",
  "        \"Mtime: \" + $Item.LastWriteTimeUtc.ToFileTimeUtc()",
  "        \"Atime: \" + $Item.LastAccessTimeUtc.ToFileTimeUtc()",
  "        if ($Item.PSIsContainer) \x7b \"Length: 0\" \x7d else \x7b \"Length: \" + $Item.Length \x7d",
  "        \"Attributes: \" + [int]$Item.Attributes",
  "        $isReparse = ($Item.Attributes -band [IO.FileAttributes]::ReparsePoint) -ne 0",
  "        if ($isReparse -and $Item.Target) \x7b",
  "            \"LinkTarget: \" + (ConvertTo-Base64 ([String]@($Item.Target)[0]))",
  "        \x7d",
  "        \"\x7d\"",
  "    \x7d",
  "\x7d",
  "",
  "function Gzip-File \x7b",
  "    param([String]$Path)",
  "    $in = [IO.File]::OpenRead($Path)",
  "    try \x7b",
  "        $out = [IO.File]::Create($Path + \".gz\")",
  "        try \x7b",
  "            $gzip = New-Object IO.Compression.GZipStream($out, [IO.Compression.CompressionMode]::Compress)",
  "            try \x7b",
  "                $in.CopyTo($gzip)",
  "            \x7d finally \x7b",
  "                $gzip.Dispose()",
  "            \x7d",
  "        \x7d finally \x7b",
  "            $out.Dispose()",
  "        \x7d",
  "    \x7d finally \x7b",
  "        $in.Dispose()",
  "    \x7d",
  "    Remove-Item -LiteralPath $Path -Force",
  "\x7d",
  "",
  "Export-ModuleMember -Function Find-Files, Find-Directories, Print-FileInfo, Gzip-File"
]

/-- The text of the helper module, each line ended by a line feed. -/
def helperSource : String := helperLines.foldr (fun l s => l ++ "\n" ++ s) ""

end RemoteSearch.Windows
