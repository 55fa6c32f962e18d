import ScriptHost.Engine

/-!
# Errors that reach the host

A failed engine call reaches the host in one of two ways: as the fault that the engine reported to
the site during the call, or, when nothing was reported, as the raw native error.
-/

namespace ScriptHost

/-- An error of a session, a handle or the template compiler. -/
inductive HostError where
  | engineNotFound (language : String)
  /-- The engine lacks capabilities that a session needs. -/
  | engineTypeMismatch (language : String) (missing : Capabilities)
  /-- A name that must not be empty is. -/
  | invalidName (what : String)
  | scriptFault (fault : Fault)
  | nativeCallFailure (error : NativeError)
  /-- The object of the call is no longer open, or not yet. -/
  | disposed (what : String)
deriving DecidableEq, Inhabited

namespace HostError

/-- The text of an error. -/
def message : HostError → String
  | engineNotFound language => "no scripting engine is registered as `" ++ language ++ "`"
  | engineTypeMismatch language missing =>
    "`" ++ language ++ "` is not a usable scripting engine (missing " ++ missing.text ++ ")"
  | invalidName what => what ++ " must not be empty"
  | scriptFault f => f.message
  | nativeCallFailure e => "native call failed: " ++ e.message
  | disposed what => what ++ " is not open"

/-- The error with its fault's source line read from `text`. -/
def against (text : String) : HostError → HostError
  | scriptFault f => scriptFault (f.against text)
  | e => e

end HostError

/-- How a failed engine call reaches the host: the fault in the mailbox, which is emptied, or else
the native error. -/
def Context.surface (c : Context) (e : NativeError) : HostError × Context :=
  match c.site.bind Site.fault with
  | some f => (.scriptFault f, c.tell Site.clear)
  | none => (.nativeCallFailure e, c)

end ScriptHost
