import OpenidTlsConnector.Platform

/-!
# Users and groups

A user is named by one attribute of the distinguished name in the header the
proxy injects.  The parser splits the name on unescaped commas, byte by byte,
and each part on its first `=`.
-/

namespace OpenidTlsConnector

open Foundations

inductive UserError where
  | invalidDn (rdn : String)
  | attributeNotFound (dnAttribute : String)
  deriving DecidableEq

def UserError.message : UserError → String
  | .invalidDn rdn => "Could not parse DN: malformed RDN '" ++ rdn ++ "' (expected key=value)"
  | .attributeNotFound dnAttribute => "Attribute '" ++ dnAttribute ++ "' not found in DN"

structure User where
  subject : String
  rawDn : String
  deriving DecidableEq

/-- The loop of `split_rdns` from byte `i` on, where `rest` are the bytes from
there.  A slice off a character boundary is a panic. -/
def splitRdnsFrom (dn : String) : (rest : List UInt8) → (i start : Nat) →
    (parts : List String) → Option (List String)
  | [], _, start, parts => do
      let last ← Text.slice dn start (Text.utf8 dn).length
      some (parts ++ [last])
  | byte :: rest, i, start, parts =>
      if byte = '\\'.toUInt8 then
        match rest with
        | _ :: rest => splitRdnsFrom dn rest (i + 2) start parts
        -- a trailing backslash escapes nothing
        | [] => splitRdnsFrom dn [] (i + 1) start parts
      else if byte = ','.toUInt8 then do
        let part ← Text.slice dn start i
        splitRdnsFrom dn rest (i + 1) (i + 1) (parts ++ [part])
      else splitRdnsFrom dn rest (i + 1) start parts

def splitRdns (dn : String) : Option (List String) :=
  splitRdnsFrom dn (Text.utf8 dn) 0 0 []

/-- The first part whose key is the attribute decides, unless a malformed part
stands before it. -/
def findAttribute (platform : Platform) (dnAttribute : String) :
    List String → Except UserError String
  | [] => .error (.attributeNotFound dnAttribute)
  | rdn :: rest =>
      let rdnTrimmed := Text.trim rdn
      match Text.splitOnce '=' rdnTrimmed with
      | none => .error (.invalidDn rdnTrimmed)
      | some (key, value) =>
          if platform.uppercase.apply (Text.trim key) = platform.uppercase.apply dnAttribute then
            .ok (Text.trim value)
          else findAttribute platform dnAttribute rest

def extractDnAttribute (platform : Platform) (dn dnAttribute : String) :
    Outcome UserError String :=
  match splitRdns dn with
  | none => .panic
  | some rdns => .ofExcept (findAttribute platform dnAttribute rdns)

structure UserManager where
  dnAttribute : String

def UserManager.resolve (platform : Platform) (manager : UserManager) (headerValue : String) :
    Outcome UserError User := do
  let subject ← extractDnAttribute platform headerValue manager.dnAttribute
  return { subject := subject, rawDn := headerValue }

/-- Default groups first, then each client group not yet present. -/
def resolveGroups (clientGroups defaultGroups : List String) : List String :=
  clientGroups.foldl
    (fun result group => if result.contains group then result else result ++ [group])
    defaultGroups

example : splitRdns "a=1,b=2\\,3,c=4" = some ["a=1", "b=2\\,3", "c=4"] := by decide

example : resolveGroups ["authenticated", "spa-users"] ["everyone", "authenticated"] =
    ["everyone", "authenticated", "spa-users"] := by decide

end OpenidTlsConnector
