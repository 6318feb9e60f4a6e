import SearchFilter.Address.Resolver
import SearchFilter.Proofs.Address.Names
import SearchFilter.Proofs.Client.Resolving

/-!
# Addresses find the paths of an index

An index fits below a base if its name is one step of a path and is not too long.
-/

namespace SearchFilter

instance : LawfulResolver Address where
  FitsBelow := Address.FitsBelow
  exists_mapping := Address.exists_resolve_mapping
  exists_search := Address.exists_resolve_search

end SearchFilter
