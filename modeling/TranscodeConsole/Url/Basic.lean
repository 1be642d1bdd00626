import TranscodeConsole.Url.Host

/-!
Addresses by their parts, and their one written form.
-/
namespace TranscodeConsole

inductive Url.Kind where
  | special
  | file
  | other
  deriving DecidableEq, Repr

inductive Url.Path where
  | plain (text : List Char)
  | segments (parts : List (List Char))
  deriving DecidableEq, Repr

structure Url where
  scheme : List Char
  user : List Char := []
  password : List Char := []
  host : Option Url.Host := none
  port : Option Nat := none
  path : Url.Path := .segments []
  query : Option (List Char) := none
  fragment : Option (List Char) := none
  deriving DecidableEq, Repr

namespace Url

def Kind.ofScheme (scheme : List Char) : Kind :=
  match String.ofList scheme with
  | "http" | "https" | "ws" | "wss" | "ftp" => .special
  | "file" => .file
  | _ => .other

def Kind.isSpecial : Kind → Bool
  | .special | .file => true
  | .other => false

def defaultPort (scheme : List Char) : Option Nat :=
  match String.ofList scheme with
  | "http" | "ws" => some 80
  | "https" | "wss" => some 443
  | "ftp" => some 21
  | _ => none

def kind (u : Url) : Kind := .ofScheme u.scheme

namespace Path

def text : Path → List Char
  | .plain text => text
  | .segments parts => parts.flatMap ('/' :: ·)

/-- The path with an empty last part, so that what is relative to it lies under it. -/
def asDirectory : Path → Path
  | .plain text =>
    if text.getLast? = some '/' then .plain text
    else if text.isEmpty then .plain ("%2F".toList)
    else .plain (text ++ ['/'])
  | .segments parts =>
    if parts.getLast? = some [] then .segments parts else .segments (parts ++ [[]])

end Path

def writeCredentials (u : Url) : List Char :=
  if u.user.isEmpty && u.password.isEmpty then []
  else u.user ++ (if u.password.isEmpty then [] else ':' :: u.password) ++ ['@']

/-- The part between the scheme and the path. A path that starts with two slashes is kept apart
from the scheme when there is no host. -/
def writeAuthority (u : Url) : List Char :=
  match u.host with
  | some host => "//".toList ++ u.writeCredentials ++ host.write ++
      (match u.port with
        | some port => ':' :: (toString port).toList
        | none => [])
  | none =>
    if u.kind = .file then "//".toList
    else if u.path.text.take 2 = "//".toList then "/.".toList
    else []

def writeOptional (mark : Char) : Option (List Char) → List Char
  | some text => mark :: text
  | none => []

def write (u : Url) : List Char :=
  u.scheme ++ ':' :: u.writeAuthority ++ u.path.text ++ writeOptional '?' u.query
    ++ writeOptional '#' u.fragment

def render (u : Url) : String := String.ofList u.write

instance : ToString Url := ⟨render⟩

end Url
end TranscodeConsole
