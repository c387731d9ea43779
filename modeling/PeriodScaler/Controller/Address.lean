import PeriodScaler.Http.Ip

/-!
# Socket addresses

An address of version 4 with a port, or one of version 6 in brackets, with a numeric scope if need
be, and a port.

Model of the library's reading and writing of a `SocketAddr`.
-/

namespace PeriodScaler

/-- An address and a port. -/
inductive SocketAddress where
  | v4 (octets : List Nat) (port : Nat)
  | v6 (groups : List Nat) (scope port : Nat)
  deriving DecidableEq, Repr

namespace SocketAddress

open Ip (exactly? number? octets? groups? octetsText v6Text)

/-- A colon and a port. -/
def port? (cs : List Char) : Option (Nat × List Char) := do
  number? 10 none 65536 true (← exactly? ':' cs)

/-- A whole address of version 4. -/
def v4? (cs : List Char) : Option SocketAddress := do
  let (octets, cs) ← octets? cs
  let (port, cs) ← port? cs
  if cs.isEmpty then return .v4 octets port else none

/-- A whole address of version 6. -/
def v6? (cs : List Char) : Option SocketAddress := do
  let (groups, cs) ← groups? (← exactly? '[' cs)
  let (scope, cs) := ((exactly? '%' cs).bind (number? 10 none 4294967296 true)).getD (0, cs)
  let (port, cs) ← port? (← exactly? ']' cs)
  if cs.isEmpty then return .v6 groups scope port else none

/-- The address of a text. -/
def ofText? (s : String) : Option SocketAddress :=
  (v4? s.toList).or (v6? s.toList)

/-- The canonical text of an address. -/
def text : SocketAddress → String
  | v4 octets port => octetsText octets ++ ":" ++ Text.ofNat port
  | v6 groups scope port =>
    "[" ++ v6Text groups ++ (if scope = 0 then "" else "%" ++ Text.ofNat scope) ++ "]:" ++
      Text.ofNat port

end SocketAddress

end PeriodScaler
