import SearchFilter.Address.Basic
import SearchFilter.Resolver

/-!
# Addresses as what a client sends to

A base is an address with a slash at its end.  Replies are taken from an address that names a
scheme.
-/

namespace SearchFilter

instance : Resolver Address where
  base url := (Address.parse url).bind Address.directory
  resolve := Address.resolve
  text := Address.text
  authorization := Address.authorization
  refusal? address :=
    if Address.namesScheme address.text then none
    else some (.noScheme (Address.shownText address.text))

end SearchFilter
