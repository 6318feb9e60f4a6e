import SearchFilter.Compiler
import SearchFilter.Proofs.Json.Writable
import SearchFilter.Proofs.QueryString.Names

/-!
# Parameters of a query string

A query string puts texts, lists of texts and maps of such values under names, and nothing else.
All of them can be written as JSON, and no name occurs twice.
-/

namespace SearchFilter

open Json (Writable)

mutual

theorem writable_toValue : ∀ param : Param, Writable param.toValue
  | .text s => by
    rw [Param.toValue]
    exact .text s
  | .list items => by
    rw [Param.toValue]
    refine .list ?_
    rw [List.forall_mem_map]
    exact fun item _ => .text item
  | .map entries => by
    rw [Param.toValue]
    exact .map (fun entry hentry => (writable_toEntries entries entry hentry).1)
      fun entry hentry => (writable_toEntries entries entry hentry).2

theorem writable_toEntries : ∀ entries : List (String × Param),
    ∀ entry ∈ Param.toEntries entries, (∃ name, entry.1 = .text name) ∧ Writable entry.2
  | [] => by simp [Param.toEntries]
  | (name, param) :: rest => by
    intro entry hentry
    rw [Param.toEntries] at hentry
    rcases List.mem_cons.mp hentry with rfl | hrest
    · exact ⟨⟨name, rfl⟩, writable_toValue param⟩
    · exact writable_toEntries rest entry hrest

end

/-- Every parameter of a query string can be written. -/
theorem writable_of_mem_ofQuery {query : String} {entry : String × Value}
    (h : entry ∈ Params.ofQuery query) : Writable entry.2 := by
  obtain ⟨_, _, rfl⟩ := List.mem_map.mp h
  exact writable_toValue _

namespace QueryString

theorem nodup_ofQuery (query : String) : ((ofQuery query).map Prod.fst).Nodup :=
  nodup_build (decodePairs query)

end QueryString

/-- The names of the parameters of a query string are different. -/
theorem nodup_params_ofQuery (query : String) : ((Params.ofQuery query).map Prod.fst).Nodup := by
  rw [Params.ofQuery, List.map_map]
  exact QueryString.nodup_ofQuery query

/-- As values of a map, the parameters of a query string are the same parameters. -/
theorem ofEntries_params_ofQuery (query : String) :
    Params.ofEntries ((Params.ofQuery query).map fun entry => (.text entry.1, entry.2)) =
      Params.ofQuery query := by
  have hmap : ((Params.ofQuery query).map fun entry => (Value.text entry.1, entry.2)).map
      (fun entry => (entry.1.display, entry.2)) = Params.ofQuery query := by
    rw [List.map_map]
    exact List.map_id _
  rw [Params.ofEntries, hmap, Entries.ofPairs_of_nodup (nodup_params_ofQuery query)]

end SearchFilter
