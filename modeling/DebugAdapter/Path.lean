import DebugAdapter.Text.Blank
/-!
# Paths

Paths are texts whose components stand between slashes. Empty components and those that are a
single dot say nothing, except that a slash at the start makes a path absolute and a dot there is
kept; nothing here looks at a file system, and no component is resolved.
-/

namespace DebugAdapter.Path

/-- Whether a component says nothing. -/
def isVoid (component : List Char) : Bool := component.isEmpty || component == ['.']

/-- Components without the void ones at the end. -/
def dropVoidEnd (components : List (List Char)) : List (List Char) :=
  (components.reverse.dropWhile isVoid).reverse

/-- Components without the void ones at either end. -/
def dropVoidEnds (components : List (List Char)) : List (List Char) :=
  dropVoidEnd (components.dropWhile isVoid)

/-- Components as one text. -/
def joinComponents (components : List (List Char)) : List Char :=
  List.intercalate ['/'] components

/-- Whether a path starts at the root. -/
def isAbsolute (path : String) : Bool := path.toList.head? == some '/'

/-- The characters of a path that come before its components: the root, or a dot at the start. -/
def splitStart : List Char → List Char × List Char
  | '/' :: rest => (['/'], rest)
  | ['.'] => (['.'], [])
  | '.' :: '/' :: rest => (['.'], '/' :: rest)
  | cs => ([], cs)

/-- A path below another one; an absolute path stands for itself. -/
def join (base path : String) : String :=
  if isAbsolute path || base.isEmpty then path
  else if base.toList.getLast? = some '/' then base ++ path
  else base ++ "/" ++ path

/-- Whether a path names the working directory or one above it, whatever the file system holds. -/
def leadsUp (path : String) : Bool :=
  !path.isEmpty && (Text.fields '/' path.toList).all fun c => isVoid c || c == ['.', '.']

/-- The directory of a path. The root and the empty path have none. -/
def parent? (path : String) : Option String :=
  let (start, body) := splitStart path.toList
  match (dropVoidEnd (Text.fields '/' body)).reverse with
  | _ :: above => some (String.ofList (start ++ joinComponents (dropVoidEnd above.reverse)))
  | [] => if start = ['.'] then some "" else none

/-- The last component of a path, unless it leads upwards. -/
def fileName? (path : String) : Option String :=
  let (_, body) := splitStart path.toList
  match (dropVoidEnd (Text.fields '/' body)).getLast? with
  | some name => if name = ['.', '.'] then none else some (String.ofList name)
  | none => none

/-- What stands below the home directory, if the first component is `~`. -/
def belowHome? (path : String) : Option String :=
  match Text.fields '/' path.toList with
  | ['~'] :: rest => some (String.ofList (joinComponents (dropVoidEnds rest)))
  | _ => none

/-- A path with the home directory in the place of `~`. -/
def expandHome (home path : String) : String :=
  match belowHome? path with
  | some rest => join home rest
  | none => path

/-- The spelling under which a path is looked up: with slashes only. -/
def key (path : String) : String :=
  String.ofList (path.toList.map fun c => if c = '\\' then '/' else c)

/-- The path under which a program is launched. -/
def launched (home path : String) : String := key (expandHome home path)

end DebugAdapter.Path
