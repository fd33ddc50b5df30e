import RemoteSearch.Error
import RemoteSearch.Settings.Basic
import RemoteSearch.Settings.Ini
import RemoteSearch.Settings.Tree
import RemoteSearch.Text.Case.Lower

/-!
# Loading of settings

Settings come from several sources, of which later ones go over earlier ones. What they make
together is then resolved for a host: the texts at the top, gone over by those of the host's scopes
from the least to the most specific.

What one source says has no order. That is seen where a source gives one place twice, such as under
a name with dots and in a section. `MayLoad` is what loading may come to in whatever order, and
`load` takes the names at the top first.
-/

namespace RemoteSearch.Settings

open Text

/-- A source of settings. -/
inductive Source where
  /-- A file with the given text, or none. -/
  | file (text : Option String) (required : Bool)
  | inline (text : String)
  /-- Variables of the environment, with all others. -/
  | environment (pairs : List (String × String))
  deriving Repr, Inhabited

/-- The built-in settings. -/
def defaults : String :=
  "; Built-in session settings. Overlay files and HOSTLENS_* environment\n" ++
  "; variables take precedence; scoped sections apply to the named flavor\n" ++
  "; (or flavor family) only.\n\n" ++
  "; Read timeouts per timeout tier, in milliseconds.\n" ++
  "read_timeout_s = 30000\n" ++
  "read_timeout_m = 120000\n" ++
  "read_timeout_l = 900000\n" ++
  "read_timeout_xl = 3600000\n\n" ++
  "; Size checks on a running search's temp file, in milliseconds.\n" ++
  "watchdog_interval = 15000\n" ++
  "watchdog_join_timeout = 2000\n\n" ++
  "; Remote temp files are named <temp_prefix>.<stamp>.out\n" ++
  "temp_prefix = find\n\n" ++
  "[unix]\nread_timeout_s = 20000\n\n" ++
  "[aix]\nread_timeout_xl = 7200000\n\n" ++
  "[solaris]\nread_timeout_xl = 7200000\n\n" ++
  "[windows]\nread_timeout_s = 60000\nread_timeout_m = 300000\n"

/-- What a source says: pairs at the top, and sections with their pairs. -/
structure Layer where
  top : Fields := []
  sections : List (String × Fields) := []
  deriving Repr, DecidableEq, Inhabited

/-- A section that begins again takes the place of the earlier one. -/
def putSection (name : String) (pairs : Fields) (l : List (String × Fields)) :
    List (String × Fields) :=
  l.filter (·.1 != name) ++ [(name, pairs)]

/-- The layer of a text. A name of a section hides the same name at the top. -/
def Layer.ofText (text : String) : Option Layer :=
  (Ini.read text).map fun parts =>
    parts.foldl
      (fun layer part =>
        match part with
        | (none, pairs) => { layer with top := pairs }
        | (some name, pairs) =>
          { top := layer.top.without name, sections := putSection name pairs layer.sections })
      {}

/-- What stands in front of the names of variables that hold settings. -/
def variablePrefix : List Char := "hostlens_".toList

/-- Each two underscores, from the left, replaced by a dot. -/
def dotted : List Char → List Char
  | '_' :: '_' :: r => '.' :: dotted r
  | c :: r => c :: dotted r
  | [] => []

/-- The setting that a variable holds. -/
def variableKey? (name : String) : Option String :=
  let l := (Case.lower name).toList
  if variablePrefix.isPrefixOf l then some (String.ofList (dotted (l.drop variablePrefix.length)))
  else none

/-- The layer of the environment. -/
def Layer.ofVariables (pairs : List (String × String)) : Layer :=
  { top := .ofList (pairs.filterMap fun p => (variableKey? p.1).map (·, p.2)) }

/-- A text without a byte order mark. -/
def withoutMark (text : String) : String :=
  match text.toList with
  | '\uFEFF' :: r => String.ofList r
  | _ => text

/-- A layer, or the error of settings that cannot be read. -/
def orUnreadable : Option Layer → Except Error Layer
  | some l => .ok l
  | none => .error .config

/-- The layer of a source. -/
def Source.layer : Source → Except Error Layer
  | file none true => .error .config
  | file none false => .ok {}
  | file (some text) _ => orUnreadable (Layer.ofText (withoutMark text))
  | inline text => orUnreadable (Layer.ofText text)
  | environment pairs => .ok (.ofVariables pairs)

/-- The layers of the sources, over the built-in one. -/
def layersOf (sources : List Source) : Except Error (List Layer) :=
  (.inline defaults :: sources).mapM Source.layer

/-- What a layer says. -/
def Layer.entries (l : Layer) : List Entry :=
  l.top.map (fun p => ⟨keySteps p.1, .text p.2⟩) ++
    l.sections.map fun p => ⟨keySteps p.1, .pairs p.2⟩

/-- What layers say, one layer after another; what one of them says comes in any order. -/
inductive IsListing : List Layer → List Entry → Prop where
  | nil : IsListing [] []
  | cons {l : Layer} {layers : List Layer} {es rest : List Entry} (order : es.Perm l.entries)
      (h : IsListing layers rest) : IsListing (l :: layers) (es ++ rest)

/-- The settings of a tree for a chain of scopes, most specific first. -/
def resolve (t : Tree) (chain : List String) : Settings :=
  let top := Tree.texts t.entries
  let scopes := Tree.tables t.entries
  ⟨chain.reverse.foldl
    (fun values scope =>
      match scopes.lookup scope with
      | some entries => (Tree.texts entries).foldl (fun values p => values.put p.1 p.2) values
      | none => values)
    top⟩

/-- What the loading of sources after the built-in ones may come to, for a chain of scopes. -/
inductive MayLoad (sources : List Source) (chain : List String) : Except Error Settings → Prop where
  | unreadable {e : Error} (h : layersOf sources = .error e) : MayLoad sources chain (.error e)
  | loaded {layers : List Layer} {es : List Entry} (h : layersOf sources = .ok layers)
      (hes : IsListing layers es) : MayLoad sources chain (.ok (resolve (treeOf es) chain))

/-- The settings that sources after the built-in ones give for a chain of scopes. -/
def load (sources : List Source) (chain : List String) : Except Error Settings := do
  let layers ← layersOf sources
  .ok (resolve (treeOf (layers.flatMap Layer.entries)) chain)

/-- What each layer says may come in one order or another, the same for all. -/
theorem isListing_flatMap {f : List Entry → List Entry} (hf : ∀ es, (f es).Perm es) :
    ∀ layers : List Layer, IsListing layers (layers.flatMap fun l => f l.entries)
  | [] => .nil
  | l :: layers => .cons (hf l.entries) (isListing_flatMap hf layers)

/-- **Loading comes to one of the things that it may come to.** -/
theorem mayLoad_load (sources : List Source) (chain : List String) :
    MayLoad sources chain (load sources chain) := by
  unfold load
  cases h : layersOf sources with
  | error e => exact .unreadable h
  | ok layers => exact .loaded h (isListing_flatMap List.Perm.refl layers)

/-- Where the file of a user's own settings lies, below the directory for configurations. -/
def userFile (configHome : String) : String := configHome ++ "/hostlens/session.ini"

/-- The directory for configurations where no variable names another. -/
def standardConfigHome (home : String) : String := home ++ "/.config"

end RemoteSearch.Settings
