import Conduit.Worker.Client

/-!
# Scripted servers

Servers on the local host, on ports one after the other, that give the replies of their scripts in
turn and note what they are asked. A server without a script refuses every connection. One whose
script is used up goes on answering, with a failure of its own.
-/
namespace Conduit

open Text.Utf8

structure ScriptedServers where
  /-- What is left of each server's script. -/
  scripts : List (Option (List Reply))
  /-- The requests so far and who got them, last first. -/
  received : List (Nat × Request)

namespace ScriptedServers

def firstPort : Nat := 40000

/-- The address 127.0.0.1. -/
def localHost : Url.Host := .ipv4 (127 * Nat.pow 2 24 + 1)

/-- The host and port of a server by its number. -/
def address (server : Nat) : String := "127.0.0.1:" ++ Number.naturalText (firstPort + server)

def exhausted : Reply := .answered 500 (some (encode "script exhausted"))

/-- The number of the server that an address leads to. -/
def serverAt? (url : Url) : Option Nat :=
  if url.host = localHost ∧ !url.secure ∧ firstPort ≤ url.effectivePort then
    some (url.effectivePort - firstPort)
  else none

def exchange (request : Request) (servers : ScriptedServers) : Reply × ScriptedServers :=
  match serverAt? request.url with
  | none => (.refused, servers)
  | some server =>
    match servers.scripts[server]? with
    | some (some script) =>
      (script.headD exhausted,
        ⟨servers.scripts.set server (some script.tail), (server, request) :: servers.received⟩)
    | _ => (.refused, servers)

def network : Network ScriptedServers := ⟨exchange⟩

end ScriptedServers

end Conduit
