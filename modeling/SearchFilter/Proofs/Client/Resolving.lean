import SearchFilter.Resolver

/-!
# What a client relies on

What is proved of clients holds for every resolver.  Of the addresses themselves two facts are used,
about the paths of an index below a base: `LawfulResolver` names them.
-/

namespace SearchFilter

/-- A resolver that finds the paths of an index. -/
class LawfulResolver (α : Type) [Resolver α] where
  /-- The name of an index can be a step of a path below a base. -/
  FitsBelow : α → String → Prop
  /-- Where a base can be asked for itself, so can the mapping of an index that fits below it. -/
  exists_mapping {base root : α} (hroot : Resolver.resolve base "/" = .ok root) {index : String}
    (hindex : FitsBelow base index) :
    ∃ address, Resolver.resolve base ("/" ++ index ++ "/_mapping") = .ok address
  /-- Where a mapping can be asked for below a base, searches can be sent. -/
  exists_search {base address : α} {index : String}
    (h : Resolver.resolve base ("/" ++ index ++ "/_mapping") = .ok address) :
    ∃ address', Resolver.resolve base ("/" ++ index ++ "/_search") = .ok address'

end SearchFilter
