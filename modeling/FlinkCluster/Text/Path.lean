import FlinkCluster.Text.Split

/-!
# Paths

The text side of file paths: base names, joining, and the normal form in which messages show a
path. Two slashes at the start are kept, three or more count as one; empty components and single
dots are dropped, and two dots stay.
-/

set_option autoImplicit false

namespace FlinkCluster.Text

/-- The text after the last slash. -/
def baseName (path : String) : String := (split '/' path).getLastD ""

/-- The path of `name` in the directory `dir`. -/
def joinPath (dir name : String) : String :=
  if dir.isEmpty || dir.toList.getLast? == some '/' then dir ++ name else dir ++ "/" ++ name

/-- The components that name something. -/
def components (path : String) : List String :=
  (split '/' path).filter (fun c => c ≠ "" && c ≠ ".")

/-- The slashes at the start of the normal form. -/
def rootOf (path : String) : String :=
  match path.toList with
  | '/' :: '/' :: '/' :: _ => "/"
  | '/' :: '/' :: _ => "//"
  | '/' :: _ => "/"
  | _ => ""

/-- The normal form of a path. -/
def normalPath (path : String) : String :=
  let text := rootOf path ++ join "/" (components path)
  if text.isEmpty then "." else text

end FlinkCluster.Text
