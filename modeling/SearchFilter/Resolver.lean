import SearchFilter.Failure

/-!
# Resolvers

A client does not read addresses itself, and nothing it does depends on how they are made up.  What
it has from the library that sends its requests is a `Resolver`: it reads the address of a server,
finds the address of a path below it, and knows what an address says apart from where it leads.
-/

namespace SearchFilter

/-- A type of addresses that requests can be sent to. -/
class Resolver (α : Type) where
  /-- The base of all requests to a server, given by its address. -/
  base : String → Except Failure α
  /-- The address of a path below a base. -/
  resolve : α → String → Except Failure α
  /-- An address as it is written. -/
  text : α → String
  /-- The proof of identity that an address holds, if it holds one. -/
  authorization : α → Option String
  /-- Why no reply from an address is taken, if there is a reason. -/
  refusal? : α → Option Failure

end SearchFilter
