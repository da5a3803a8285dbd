import BearerAuth.Http.Url.Basic

/-!
# Request targets

The path of a request target, without query and fragment. A target with a scheme and a host has the
root as its path when it names none.
-/

namespace BearerAuth.Http.Target

/-- The part of a target before query and fragment. -/
def withoutTail (cs : List Char) : List Char :=
  (Url.cutAt (fun c => c = '?' || c = '#') cs).1

/-- What follows the scheme and its two slashes. -/
def afterScheme? (cs : List Char) : Option (List Char) :=
  match Url.scheme? cs with
  | some (_, '/' :: '/' :: rest) => some rest
  | _ => none

def path (target : String) : String :=
  let cs := withoutTail target.toList
  match cs with
  | '/' :: _ | ['*'] => String.ofList cs
  | _ =>
    match afterScheme? cs with
    | some rest =>
      let path := (Url.cutAt (· == '/') rest).2
      if path.isEmpty then "/" else String.ofList path
    | none => if target.toList.contains '?' then "/" else ""

end BearerAuth.Http.Target
