import FlinkCluster.Naming
import FlinkCluster.Table
import FlinkCluster.Text.Utf8
import FlinkCluster.Value

/-!
# Failures

Everything that can go wrong is named by its cause. `ConfigurationError` is the failure that a user
of the library mends in the configuration; it says which key and which cluster it concerns.
`Failure` adds what the cluster, the documents and the files can do. The wording is in the
functions called `message`.
-/

set_option autoImplicit false

namespace FlinkCluster

/-- A message followed by its notes, each as name and text; empty and absent notes are left out. -/
def annotated (message : String) (notes : List (String × Option String)) : String :=
  let shown := notes.filterMap fun (name, note) =>
    match note with
    | some s => if s.isEmpty then none else some (name ++ ": " ++ s)
    | none => none
  Text.join " | " (message :: shown)

/-! ## Files -/

/-- Why a file cannot be read. -/
inductive FileFault where
  | notFound
  | notDirectory
  | isDirectory
  | nameTooLong
  deriving DecidableEq, Repr

/-- The number and the words of the operating system for a fault. -/
def FileFault.description : FileFault → String
  | .notFound => "[Errno 2] No such file or directory"
  | .notDirectory => "[Errno 20] Not a directory"
  | .isDirectory => "[Errno 21] Is a directory"
  | .nameTooLong => "[Errno 36] File name too long"

/-- A file that cannot be read, by its normal path. -/
structure FileError where
  fault : FileFault
  path : String
  deriving DecidableEq, Repr

/-- The fault and the quoted path. -/
def FileError.message (e : FileError) : String :=
  e.fault.description ++ ": " ++ Text.quoted e.path

/-! ## Configuration -/

/-- What is wrong with a configuration. -/
inductive ConfigurationFault where
  | invalidMapEntry (entry : String)
  | unreadableValue (raw kind : String)
  | clusterIdMissing
  | incompleteSecretReference (ref : Table String) (missing : List String)
  | incompleteOwnerReference (ref : Table String) (missing : List String)
  | unknownClusterMode (raw : String)
  | unknownExposedType (raw : String)
  | noJobManager
  | highAvailabilityNeeded
  | slotsNotPositive (slots : Int)
  | parallelismNotPositive (parallelism : Int)
  | invalidMemorySize (size : String)
  | volumeTaken (volume : String)
  | secretVolumeTaken (volume secret : String)
  | unreadableFile (path : String) (error : FileError)
  | unreadableKeytab (path : String) (error : FileError)
  deriving DecidableEq, Repr

namespace ConfigurationFault

/-- The wording of an incomplete reference. -/
def incomplete (what : String) (ref : Table String) (missing : List String) : String :=
  what ++ " " ++ (Value.ofTable ref).literal ++ " is missing " ++ (Value.ofTexts missing).literal

/-- The wording of a fault. -/
def message : ConfigurationFault → String
  | .invalidMapEntry entry => "Invalid map entry '" ++ entry ++ "', expected 'key:value'"
  | .unreadableValue raw kind => "Could not parse value '" ++ raw ++ "' as " ++ kind
  | .clusterIdMissing => "Cluster id must be set"
  | .incompleteSecretReference ref missing => incomplete "Secret key reference" ref missing
  | .incompleteOwnerReference ref missing => incomplete "Owner reference" ref missing
  | .unknownClusterMode raw => "Unknown standalone cluster mode: " ++ raw
  | .unknownExposedType raw => "Unknown rest service exposed type: " ++ raw
  | .noJobManager => "Job manager replicas must be at least 1"
  | .highAvailabilityNeeded =>
    "High availability must be enabled for more than one job manager"
  | .slotsNotPositive slots =>
    "Task slots per task manager must be positive, got " ++ Number.integerText slots
  | .parallelismNotPositive parallelism =>
    "Parallelism must be positive, got " ++ Number.integerText parallelism
  | .invalidMemorySize size => "Invalid memory size: " ++ size
  | .volumeTaken volume =>
    "Volume " ++ volume ++ " conflicts with an existing volume of the pod"
  | .secretVolumeTaken volume secret =>
    "Volume " ++ volume ++ " for secret " ++ secret ++
      " conflicts with a reserved or existing volume name"
  | .unreadableFile path error => "Could not read " ++ path ++ ": " ++ error.message
  | .unreadableKeytab path error => "Could not read keytab " ++ path ++ ": " ++ error.message

end ConfigurationFault

/-- A fault with the key and the cluster it concerns. -/
structure ConfigurationError where
  fault : ConfigurationFault
  key : Option String := none
  clusterId : Option String := none
  deriving DecidableEq, Repr

/-- The notes that follow the message of a configuration error. -/
def configurationNotes (key clusterId : Option String) : List (String × Option String) :=
  [("Key", key), ("Cluster", clusterId)]

/-- The fault, the key and the cluster. -/
def ConfigurationError.message (e : ConfigurationError) : String :=
  annotated e.fault.message (configurationNotes e.key e.clusterId)

/-! ## The cluster -/

/-- A request that the Kubernetes API refused. -/
structure ApiError where
  status : Int
  reason : String
  deriving DecidableEq, Repr

/-- A deployment that failed and will not heal on its own. -/
structure DeploymentFailure where
  text : String
  reason : Option String
  deriving DecidableEq, Repr

/-- The failure of a condition or a container; an absent message counts as empty. -/
def DeploymentFailure.of (text reason : Option String) : DeploymentFailure :=
  ⟨text.getD "", reason⟩

/-- The text and the reason. -/
def DeploymentFailure.message (e : DeploymentFailure) : String :=
  annotated e.text [("Reason", e.reason)]

/-! ## Documents -/

/-- What is wrong with a field of a deployment document. -/
inductive FieldFault where
  | missing
  | textExpected
  | textTooShort
  | integerExpected
  | integerUnreadable
  | integerTooLong
  | integerFromFraction
  | belowLeast
  | numberExpected
  | numberUnreadable
  | numberNotFinite
  | notAbove
  | flagExpected
  | flagUnreadable
  | mapExpected
  | listExpected
  | unknownChoice
  | objectExpected
  deriving DecidableEq, Repr

/-- The word for a fault. -/
def FieldFault.word : FieldFault → String
  | .missing => "missing"
  | .textExpected => "string_type"
  | .textTooShort => "string_too_short"
  | .integerExpected => "int_type"
  | .integerUnreadable => "int_parsing"
  | .integerTooLong => "int_parsing_size"
  | .integerFromFraction => "int_from_float"
  | .belowLeast => "greater_than_equal"
  | .numberExpected => "float_type"
  | .numberUnreadable => "float_parsing"
  | .numberNotFinite => "finite_number"
  | .notAbove => "greater_than"
  | .flagExpected => "bool_type"
  | .flagUnreadable => "bool_parsing"
  | .mapExpected => "dict_type"
  | .listExpected => "list_type"
  | .unknownChoice => "enum"
  | .objectExpected => "model_type"

/-- A fault with the path to its field. -/
structure FieldError where
  path : List String
  fault : FieldFault
  deriving DecidableEq, Repr

/-- The path in one text. -/
def FieldError.place (e : FieldError) : String := Text.join "." e.path

/-! ## All failures -/

/-- Why an operation has no result. -/
inductive Failure where
  /-- The configuration is invalid. -/
  | configuration (error : ConfigurationError)
  /-- The API refused a request. -/
  | api (error : ApiError)
  /-- The job manager failed for good. -/
  | deployment (error : DeploymentFailure)
  /-- A deployment document is invalid. -/
  | document (errors : List FieldError)
  /-- A required field of a Kubernetes object is not set. -/
  | missingField (name : String)
  /-- A text is no integer. -/
  | invalidInteger (text : String) (fault : Number.IntegerFault)
  /-- An integer has more digits than are written. -/
  | unwritableInteger
  /-- An infinity has no integer. -/
  | integerOfInfinity
  /-- What is no number has no integer. -/
  | integerOfNoNumber
  /-- A text is no decimal number. -/
  | invalidNumber (text : String)
  /-- A value, in its written form, is no member of a choice. -/
  | unknownChoice (written choice : String)
  /-- A text file is not UTF-8. -/
  | undecodable (error : Text.Utf8Error)
  /-- A quotient is beyond the greatest double precision number. -/
  | quotientTooLarge
  /-- A whole number is beyond the greatest double precision number. -/
  | integerTooLarge
  /-- The term of a selector at the given index has no equals sign. -/
  | unreadableTerm (index : Nat)
  /-- A resource has no operations. -/
  | unsupportedResource (model : String)
  /-- A path holds the character NUL. -/
  | nulInPath
  /-- A list was expected where a value of another kind stands. -/
  | notIterable (kind : String)
  /-- A map, with the given member of maps, was expected where a value of another kind stands. -/
  | notMapping (kind member : String)
  /-- The name of an item is of a kind that cannot name. -/
  | unusableName (kind : String)
  /-- A list stands for an object and holds the name of one of its fields. -/
  | listForObject
  /-- There is no object where the given field of one is needed. -/
  | absentObject (field : String)
  /-- Data of two kinds, or of one without an order, are compared. -/
  | incomparable (left right : String)
  /-- The parameters of a role do not include the given one. -/
  | foreignParameter (role : Role) (name : String)
  /-- The wait for a shutdown did not end within the given number of listings. -/
  | waitUnfinished
  deriving DecidableEq, Repr

/-- A result or the reason why there is none. -/
abbrev Outcome := Except Failure

namespace Failure

/-- The wording where an integer has too many digits. -/
def digitLimitMessage (found : String) : String :=
  "Exceeds the limit (" ++ Number.integerText Number.maxDigits ++
    " digits) for integer string conversion" ++ found ++
    "; use sys.set_int_max_str_digits() to increase the limit"

/-- The wording of an integer fault; of the text at most two hundred characters are shown. -/
def integerMessage (text : String) : Number.IntegerFault → String
  | .notANumber => "invalid literal for int() with base 10: " ++
      String.ofList ((Text.quoted text).toList.take 200)
  | .tooLong digits =>
    digitLimitMessage (": value has " ++ Number.integerText digits ++ " digits")

/-- The reason of a decoding fault. -/
def utf8Reason : Text.Utf8Fault → String
  | .invalidStart => "invalid start byte"
  | .invalidContinuation => "invalid continuation byte"
  | .unexpectedEnd => "unexpected end of data"

/-- Where text stops being UTF-8. -/
def utf8Message (e : Text.Utf8Error) : String :=
  let place := match e.bytes with
    | [b] => "byte 0x" ++ String.ofList (Text.hexDigits 2 b.toNat) ++ " in position " ++
        Number.integerText e.position
    | bs => "bytes in position " ++ Number.integerText e.position ++ "-" ++
        Number.integerText (e.position + bs.length - 1)
  "'utf-8' codec can't decode " ++ place ++ ": " ++ utf8Reason e.fault

/-- The word for the parameters of a role. -/
def parametersWord : Role → String
  | .jobManager => "JobManagerParameters"
  | .taskManager => "TaskManagerParameters"

/-- The wording for a field or parameter that its owner lacks. -/
def withoutField (owner name : String) : String :=
  "'" ++ owner ++ "' object has no attribute '" ++ name ++ "'"

/-- The wording of a failure. An API error speaks through its status and reason, and a document
through its list of errors. -/
def message : Failure → String
  | .configuration e => e.message
  | .api e => e.reason
  | .deployment e => e.message
  | .document errors =>
    Text.join ", " (errors.map fun e => e.place ++ ": " ++ e.fault.word)
  | .missingField name => "Invalid value for `" ++ name ++ "`, must not be `None`"
  | .invalidInteger text fault => integerMessage text fault
  | .unwritableInteger => digitLimitMessage ""
  | .integerOfInfinity => "cannot convert float infinity to integer"
  | .integerOfNoNumber => "cannot convert float NaN to integer"
  | .invalidNumber text => "could not convert string to float: " ++ Text.quoted text
  | .unknownChoice written choice => written ++ " is not a valid " ++ choice
  | .undecodable e => utf8Message e
  | .quotientTooLarge => "integer division result too large for a float"
  | .integerTooLarge => "int too large to convert to float"
  | .unreadableTerm index =>
    "dictionary update sequence element #" ++ Number.integerText index ++
      " has length 1; 2 is required"
  | .unsupportedResource model => "Unsupported accompanying resource: " ++ model
  | .nulInPath => "embedded null byte"
  | .notIterable kind => "'" ++ kind ++ "' object is not iterable"
  | .notMapping kind member => withoutField kind member
  | .unusableName kind => "unhashable type: '" ++ kind ++ "'"
  | .listForObject => "list indices must be integers or slices, not str"
  | .absentObject field => withoutField Value.null.kindWord field
  | .incomparable left right =>
    "'>=' not supported between instances of '" ++ left ++ "' and '" ++ right ++ "'"
  | .foreignParameter role name => withoutField (parametersWord role) name
  | .waitUnfinished => "pods are still listed"

end Failure

/-- The configuration is invalid in the given way. -/
def misconfigured {α : Type} (fault : ConfigurationFault) (key : Option String := none)
    (clusterId : Option String := none) : Outcome α :=
  .error (.configuration ⟨fault, key, clusterId⟩)

end FlinkCluster
