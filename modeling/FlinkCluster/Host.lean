import FlinkCluster.Error
import FlinkCluster.Text.Path

/-!
# The host

What composing a cluster reads outside the configuration: environment variables, and files, which
stand at places. Directories are the entries without content, everything above an entry, the working
directory, all above it, and the root. A name of more than 255 bytes is refused by the directory in
which it is looked up, and a path of 4096 bytes or more at once.
-/

set_option autoImplicit false

namespace FlinkCluster

/-- A file with its bytes, or a directory. -/
inductive Node where
  | file (bytes : List UInt8)
  | directory
  deriving DecidableEq, Repr

/-- The names that lead to a file or directory from the working directory. Names of two dots at their
head lead above it, and a slash at their head is the root. -/
abbrev Location := List String

namespace Location

/-- The place above another; above the root is the root. -/
def above (place : Location) : Location :=
  match place.getLast? with
  | none | some ".." => place ++ [".."]
  | some "/" => place
  | some _ => place.dropLast

/-- The place to which a component leads. -/
def enter (place : Location) (component : String) : Location :=
  if component = ".." then place.above else place ++ [component]

/-- The place where a path starts. -/
def start (path : String) : Location := if Text.rootOf path = "" then [] else ["/"]

/-- Whether there is always a directory at a place. -/
def isBase (place : Location) : Bool := place.all fun name => name = ".." || name = "/"

/-- The places that components leave for the one above, and the place where they end. -/
def route (place : Location) : List String → List Location × Location
  | [] => ([], place)
  | c :: r =>
    let (left, last) := route (place.enter c) r
    (if c = ".." then place :: left else left, last)

end Location

/-- Environment variables, and files by their places. -/
structure Host where
  environment : Table String := Table.empty
  nodes : List (Location × Node) := []
  deriving Inhabited

namespace Host

/-- The host with an empty environment and no files. -/
def bare : Host := {}

/-- The host after a file or directory was made at a path, with the directories that the path goes
through. -/
def make (host : Host) (path : String) (node : Node) : Host :=
  let (left, last) := (Location.start path).route (Text.components path)
  { host with nodes := (last, node) :: left.map (·, .directory) ++ host.nodes }

/-- What is at a place. -/
def node? (host : Host) (place : Location) : Option Node :=
  match host.nodes.lookup place with
  | some n => some n
  | none =>
    if place.isBase || host.nodes.any (fun e => place.isPrefixOf e.1) then some .directory
    else none

/-- The most bytes of a name. -/
def maxNameBytes : Nat := 255

/-- The least number of bytes of a path that is too long. -/
def pathLimit : Nat := 4096

/-- Whether no directory looks up a name. -/
def isTooLong (name : String) : Bool := maxNameBytes < name.utf8ByteSize

/-- Follows the components from a place; two dots lead up. -/
def walk (host : Host) (place : Location) : List String → Except FileFault Node
  | [] =>
    match host.node? place with
    | some n => .ok n
    | none => .error .notFound
  | c :: r =>
    match host.node? place with
    | some .directory =>
      if isTooLong c then .error .nameTooLong else host.walk (place.enter c) r
    | some (.file _) => .error .notDirectory
    | none => .error .notFound

/-- What a path leads to. -/
def resolve (host : Host) (path : String) : Except FileFault Node :=
  if pathLimit ≤ path.utf8ByteSize then .error .nameTooLong
  else host.walk (Location.start path) (Text.components path)

/-- Whether a path leads to a file. -/
def isFile (host : Host) (path : String) : Bool :=
  match host.resolve path with
  | .ok (.file _) => !path.toList.contains (Char.ofNat 0)
  | _ => false

/-- The bytes of the file at a path; `wrap` makes the configuration fault of a file error, which
concerns `key` and `clusterId`. -/
def readBytes (host : Host) (path : String) (wrap : FileError → ConfigurationFault)
    (key clusterId : String) : Outcome (List UInt8) :=
  let refuse (fault : FileFault) : Outcome (List UInt8) :=
    misconfigured (wrap ⟨fault, Text.normalPath path⟩) key clusterId
  if path.toList.contains (Char.ofNat 0) then .error .nulInPath
  else
    match host.resolve (Text.normalPath path) with
    | .ok (.file bytes) => .ok bytes
    | .ok .directory => refuse .isDirectory
    | .error fault => refuse fault

/-- The text of the file at a path, with line feeds at its line ends. -/
def readText (host : Host) (path key clusterId : String) : Outcome String := do
  let bytes ← host.readBytes path (.unreadableFile path) key clusterId
  match Text.Utf8.decode bytes with
  | .ok s => return Text.withLineFeeds s
  | .error e => throw (.undecodable e)

/-- The texts of those of the named files that a directory holds. -/
def readTexts (host : Host) (dir : String) (names : List String) (key clusterId : String) :
    Outcome (Table String) :=
  names.foldlM (fun files name =>
    let path := Text.joinPath dir name
    if host.isFile path then (host.readText path key clusterId).map (files.set name)
    else .ok files) Table.empty

/-- The value of a variable, if it is set and not empty. -/
def lookupVariable (host : Host) (name : String) : Option String :=
  (host.environment.get? name).filter (· ≠ "")

/-- The variable that names the directory of the Hadoop configuration. -/
def hadoopVariable : String := "HADOOP_CONF_DIR"

/-- The variable that names the directory of the logging configuration. -/
def loggingVariable : String := "FLINK_CONF_DIR"

/-- The directory of the Hadoop configuration. -/
def hadoopDir? (host : Host) : Option String := host.lookupVariable hadoopVariable

/-- The directory of the logging configuration. -/
def loggingDir? (host : Host) : Option String := host.lookupVariable loggingVariable

end Host

end FlinkCluster
