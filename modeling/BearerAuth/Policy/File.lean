import BearerAuth.Settings.Environment
import BearerAuth.Settings.Json
import BearerAuth.Settings.Toml.Document
import BearerAuth.Settings.Yaml.Block
import BearerAuth.Text.Utf8

/-!
# Policies in files

A policy is loaded from a file in one of three formats, told by the extension of its name. The
variables of an environment are put over the settings of the file, and the result is read as a draft
and checked.
-/

namespace BearerAuth

inductive FileFormat where
  | toml
  | yaml
  | json
  deriving DecidableEq, Repr

inductive PolicyFile where
  | missing
  | present (name : String) (bytes : List UInt8)
  deriving DecidableEq, Repr

inductive PolicyFileError where
  | fileNotFound
  | unsupportedFormat
  /-- The file cannot be read as a draft, or the draft is no policy. -/
  | parse (cause : Option PolicyError)
  deriving DecidableEq, Repr

def PolicyFileError.unsupportedFormatText : String :=
  "Unsupported configuration file format. Use .toml, .yaml, .yml, or .json"

namespace FileFormat

/-- The part of a file name after its last dot, unless the dot comes first. -/
def extension? (name : List Char) : Option (List Char) :=
  match (Text.pieces (· == '.') name).reverse with
  | last :: before :: rest => if before.isEmpty && rest.isEmpty then none else some last
  | _ => none

def ofName? (name : String) : Option FileFormat :=
  match (extension? name.toList).map String.ofList with
  | some "toml" => some toml
  | some "yaml" | some "yml" => some yaml
  | some "json" => some json
  | _ => none

def entries? : FileFormat → List Char → Option Setting.Entries
  | toml, cs => Toml.entries? cs
  | yaml, cs => Yaml.entries? cs
  | json, cs => Setting.ofJsonText? cs

end FileFormat

namespace PolicyFile

/-- The text without a byte-order mark in front. -/
def withoutMark : List Char → List Char
  | c :: cs => if c.toNat = 0xFEFF then cs else c :: cs
  | [] => []

def entries? (format : FileFormat) (bytes : List UInt8) : Option Setting.Entries :=
  (Text.Utf8.decode? bytes).bind fun cs => format.entries? (withoutMark cs)

/-- The settings of a file with those of an environment put over them. -/
def merged (file environment : Setting.Entries) : Setting.Entries :=
  ((Setting.table []).overlay file |>.overlay environment).entries

def policyOf (settings : Setting.Entries) : Except PolicyFileError Policy :=
  match PolicyDraft.ofSettings? settings with
  | none => .error (.parse none)
  | some d => d.validate.mapError fun e => .parse (some e)

/-- Loads a policy from a file, under the variables of an environment whose names start with
`stem`. -/
def load (file : PolicyFile) (stem : String) (bindings : List (String × String)) :
    Except PolicyFileError Policy :=
  match file with
  | missing => .error .fileNotFound
  | present name bytes =>
    match FileFormat.ofName? name with
    | none => .error .unsupportedFormat
    | some format =>
      match entries? format bytes with
      | none => .error (.parse none)
      | some entries => policyOf (merged entries (Environment.settings stem bindings))

end PolicyFile

end BearerAuth
