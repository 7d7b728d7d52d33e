import Conduit.Fault
import Conduit.Text.Blank
import Conduit.Url.Basic

/-!
# Worker lists

Workers are given as a comma-separated list of addresses. Blank entries do not count. An entry
without one of the two schemes, spelled in lower case, is taken as the rest of an `http` address.
Slashes at the end of an entry are cut off before it is read. Every entry has to be an address, and
the first that is not one is the one that is reported.
-/
namespace Conduit

/-- A worker: its base address as written, and what that means. -/
structure Worker where
  base : String
  url : Url
deriving DecidableEq, Repr

namespace Worker

def hasScheme (entry : List Char) : Bool :=
  "http://".toList.isPrefixOf entry || "https://".toList.isPrefixOf entry

def withoutEndSlashes (entry : List Char) : List Char := (entry.reverse.dropWhile (· = '/')).reverse

/-- The base address that an entry stands for. -/
def baseOf (entry : List Char) : List Char :=
  if hasScheme entry then withoutEndSlashes entry else "http://".toList ++ withoutEndSlashes entry

def ofBase (base : List Char) : Except Fault Worker :=
  match Url.parse base with
  | .ok url => .ok ⟨String.ofList base, url⟩
  | .error cause => .error (.config (.worker (String.ofList base) cause))

/-- The workers of a list. -/
def parseList (s : String) : Except Fault (List Worker) :=
  match Text.listed s with
  | [] => .error (.config .noWorkers)
  | entries => entries.mapM fun entry => ofBase (baseOf entry.toList)

/-- The address below the worker that the names lead to. -/
def locate (worker : Worker) (names : List String) : Url :=
  { worker.url with path := worker.url.path.extend names }

end Worker

end Conduit
