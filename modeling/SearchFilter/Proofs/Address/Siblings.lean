import SearchFilter.Address.Basic
import SearchFilter.Proofs.Results
import SearchFilter.Proofs.Text.Blank
import SearchFilter.Proofs.Text.Split

/-!
# Addresses next to each other

Below the address of an index are those of its mapping and of its searches.  They differ in the name
at their end, and reading an address does not look at such a name: where the one can be sent to, so
can the other.  `exists_resolve_search` is the result.

`Twin` is the relation between the texts of the two, and `CutTwin` between path and query once the
text is cut, where only one of them still ends in the name.  Each step of `Address.resolve` keeps
these relations.
-/

namespace SearchFilter.Address

open SearchFilter.Text

/-! ## Twins -/

/-- The name of a mapping below an index. -/
def mappingName : List Char := "_mapping".toList

/-- The name of searches below an index. -/
def searchName : List Char := "_search".toList

/-- Two texts that are the same up to the name at their end. -/
inductive Twin : List Char → List Char → Prop
  | same (cs : List Char) : Twin cs cs
  | named (start : List Char) : Twin (start ++ mappingName) (start ++ searchName)

/-- Two texts with what was cut off from them, of which the last part there is may end in a name. -/
inductive CutTwin : List Char × Option (List Char) → List Char × Option (List Char) → Prop
  | whole {cs cs' : List Char} (h : Twin cs cs') : CutTwin (cs, none) (cs', none)
  | cut (before : List Char) {cs cs' : List Char} (h : Twin cs cs') :
      CutTwin (before, some cs) (before, some cs')

theorem CutTwin.same (cut : List Char × Option (List Char)) : CutTwin cut cut := by
  obtain ⟨before, after⟩ := cut
  cases after with
  | none => exact .whole (.same before)
  | some after => exact .cut before (.same after)

theorem encode_append (stays : Char → Bool) (cs cs' : List Char) :
    Percent.encode stays (cs ++ cs') = Percent.encode stays cs ++ Percent.encode stays cs' :=
  List.flatMap_append

namespace Twin

variable {cs cs' : List Char} (h : Twin cs cs')

include h

theorem append_left (start : List Char) : Twin (start ++ cs) (start ++ cs') := by
  cases h with
  | same cs => exact .same _
  | named rest =>
    rw [← List.append_assoc, ← List.append_assoc]
    exact .named _

theorem length_le : cs'.length ≤ cs.length := by
  cases h with
  | same cs => exact le_rfl
  | named start =>
    rw [List.length_append, List.length_append]
    exact Nat.add_le_add_left (by decide) _

theorem head?_eq : cs.head? = cs'.head? := by
  cases h with
  | same cs => rfl
  | named start => cases start <;> rfl

theorem isEmpty_eq : cs.isEmpty = cs'.isEmpty := by
  have hhead := h.head?_eq
  cases cs <;> cases cs' <;> first | rfl | cases hhead

theorem all_eq {p : Char → Bool} (hp : (mappingName ++ searchName).all p = true) :
    cs.all p = cs'.all p := by
  rw [List.all_append, Bool.and_eq_true] at hp
  cases h with
  | same cs => rfl
  | named start => rw [List.all_append, List.all_append, hp.1, hp.2]

theorem any_eq {p : Char → Bool} (hp : (mappingName ++ searchName).any p = false) :
    cs.any p = cs'.any p := by
  rw [List.any_append, Bool.or_eq_false_iff] at hp
  cases h with
  | same cs => rfl
  | named start => rw [List.any_append, List.any_append, hp.1, hp.2]

/-- Whether a path can stand in an address does not depend on the name at its end. -/
theorem isPath_eq (hasScheme hasHost : Bool) :
    isPath hasScheme hasHost cs = isPath hasScheme hasHost cs' := by
  have hslashes : ['/', '/'].isPrefixOf cs = ['/', '/'].isPrefixOf cs' := by
    cases h with
    | same cs => rfl
    | named start =>
      obtain ⟨hmapping, hsearch⟩ : mappingName = '_' :: "mapping".toList ∧
          searchName = '_' :: "search".toList := by decide
      rw [hmapping, hsearch]
      match start with
      | [] => simp [List.isPrefixOf]
      | [_] => simp [List.isPrefixOf]
      | _ :: _ :: _ => simp [List.isPrefixOf]
  have hcolon : [':'].isPrefixOf cs = [':'].isPrefixOf cs' := by
    have hhead := h.head?_eq
    cases cs <;> cases cs' <;> simp_all [List.isPrefixOf]
  rw [isPath, isPath, h.isEmpty_eq, h.head?_eq, hslashes, hcolon]

theorem encode {stays : Char → Bool} (hstays : (mappingName ++ searchName).all stays = true) :
    Twin (Percent.encode stays cs) (Percent.encode stays cs') := by
  have hname : ∀ name : List Char, name.all stays = true → Percent.encode stays name = name := by
    intro name hname
    induction name with
    | nil => rfl
    | cons c rest ih =>
      rw [List.all_cons, Bool.and_eq_true] at hname
      rw [Percent.encode, List.flatMap_cons, if_pos hname.1]
      exact congrArg (c :: ·) (ih hname.2)
  rw [List.all_append, Bool.and_eq_true] at hstays
  cases h with
  | same cs => exact .same _
  | named start =>
    rw [encode_append, encode_append, hname _ hstays.1, hname _ hstays.2]
    exact .named _

theorem dropWhile_slash : Twin (cs.dropWhile (· == '/')) (cs'.dropWhile (· == '/')) := by
  cases h with
  | same cs => exact .same _
  | named start =>
    induction start with
    | nil => exact .named []
    | cons c start ih =>
      rw [List.cons_append, List.cons_append, List.dropWhile_cons, List.dropWhile_cons]
      split
      · exact ih
      · exact .named (c :: start)

theorem cutAt {mark : Char} (hmark : mark ∉ mappingName ++ searchName) :
    CutTwin (cutAt mark cs) (Text.cutAt mark cs') := by
  obtain ⟨hmapping, hsearch⟩ : mark ∉ mappingName ∧ mark ∉ searchName := by
    rwa [List.mem_append, not_or] at hmark
  cases h with
  | same cs => exact .same _
  | named start =>
    induction start with
    | nil =>
      rw [List.nil_append, List.nil_append, cutAt_of_not_mem hmapping, cutAt_of_not_mem hsearch]
      exact .whole (.named [])
    | cons c start ih =>
      rw [List.cons_append, List.cons_append, Text.cutAt, Text.cutAt]
      split
      · exact .cut [] (.named start)
      · generalize Text.cutAt mark (start ++ mappingName) = cut,
          Text.cutAt mark (start ++ searchName) = cut' at ih
        cases ih with
        | whole h => exact .whole (h.append_left [c])
        | cut before h => exact .cut (c :: before) h

end Twin

/-! ## Dots -/

theorem exists_pieces_append (p : Char → Bool) (start : List Char) :
    ∃ before last, ∀ name : List Char, (∀ c ∈ name, p c = false) →
      pieces p (start ++ name) = before ++ [last ++ name] := by
  induction start with
  | nil => exact ⟨[], [], fun name hname => pieces_of_forall_not hname⟩
  | cons c start ih =>
    obtain ⟨before, last, hpieces⟩ := ih
    by_cases hc : p c = true
    · refine ⟨[] :: before, last, fun name hname => ?_⟩
      rw [List.cons_append, pieces, if_pos hc, hpieces name hname, List.cons_append]
    · cases before with
      | nil =>
        refine ⟨[], c :: last, fun name hname => ?_⟩
        rw [List.cons_append, pieces, if_neg hc, hpieces name hname]
        rfl
      | cons first others =>
        refine ⟨(c :: first) :: others, last, fun name hname => ?_⟩
        rw [List.cons_append, pieces, if_neg hc, hpieces name hname]
        rfl

theorem take_of_lt_length (taken : List (List Char)) {step : List Char} (h : 2 < step.length) :
    take taken step = step :: taken := by
  have hne : ∀ other : List Char, other.length ≤ 2 → ¬ (step == other) = true := by
    intro other hother heq
    rw [beq_iff_eq.mp heq] at h
    exact absurd h (Nat.not_lt.mpr hother)
  rw [take, if_neg (hne stay (by decide)), if_neg (hne back (by decide))]

theorem exists_intercalate_append (steps : List (List Char)) (last : List Char) :
    ∃ start, ∀ name, ['/'].intercalate (steps ++ [last ++ name]) = start ++ name := by
  induction steps with
  | nil => exact ⟨last, fun name => List.intercalate_singleton⟩
  | cons step rest ih =>
    obtain ⟨start, hstart⟩ := ih
    refine ⟨step ++ ['/'] ++ start, fun name => ?_⟩
    have hcons : ∀ others : List (List Char), others ≠ [] →
        ['/'].intercalate (step :: others) = step ++ ['/'] ++ ['/'].intercalate others := by
      intro others hne
      obtain ⟨next, others, rfl⟩ := List.exists_cons_of_ne_nil hne
      exact List.intercalate_cons_cons
    rw [List.cons_append, hcons _ (by simp), hstart, List.append_assoc _ start]

/-- Carrying out the dots of a path leaves a name at its end. -/
theorem exists_withoutDots_append (start : List Char) :
    ∃ start', ∀ name : List Char, '/' ∉ name → 2 < name.length →
      withoutDots (start ++ name) = start' ++ name := by
  obtain ⟨before, last, hpieces⟩ := exists_pieces_append (· == '/') start
  obtain ⟨start', hstart'⟩ := exists_intercalate_append (before.foldl take []).reverse last
  refine ⟨start', fun name hname hlength => ?_⟩
  have hlast : 2 < (last ++ name).length := by
    rw [List.length_append]
    omega
  have huncut : ∀ c ∈ name, (c == '/') = false := by
    rintro c hc
    rw [beq_eq_false_iff_ne]
    rintro rfl
    exact hname hc
  rw [withoutDots, hpieces name huncut, List.foldl_append, List.foldl_cons, List.foldl_nil,
    take_of_lt_length _ hlast, List.reverse_cons, hstart']

theorem Twin.withoutDots {cs cs' : List Char} (h : Twin cs cs') :
    Twin (withoutDots cs) (Address.withoutDots cs') := by
  cases h with
  | same cs => exact .same _
  | named start =>
    obtain ⟨start', hstart'⟩ := exists_withoutDots_append start
    rw [hstart' mappingName (by decide) (by decide), hstart' searchName (by decide) (by decide)]
    exact .named start'

/-! ## Reading parts -/

/-- The text of the host among parts, and that of the service. -/
def Parts.host (parts : Parts) : List Char × List Char :=
  cutHost (cutAtLast '@' parts.authority).2

/-- Name and password among parts, in the form in which they are sent. -/
def Parts.userInfo (parts : Parts) : List Char :=
  Percent.encode staysInUserInfo (cutAtLast '@' parts.authority).1

/-- The address that parts make with a host and a service that have been read. -/
def Parts.address (parts : Parts) (host : List Char) (service : Option Int) : Address :=
  let hasHost := !parts.userInfo.isEmpty || !host.isEmpty || service.isSome
  ⟨parts.scheme.map lowerChar, parts.userInfo, host, service,
    Percent.encode staysInPath
      (if !parts.scheme.isEmpty || hasHost then withoutDots parts.path else parts.path),
    parts.query.map (Percent.encode staysInQuery),
    parts.fragment.map (Percent.encode staysInFragment)⟩

/-- Parts make an address if host, service and path can be read. -/
theorem ofParts_eq_ok_iff {parts : Parts} {address : Address} :
    ofParts parts = .ok address ↔
      ∃ host service, serviceOf parts.scheme parts.host.2 = .ok service ∧
        Host.normalize? parts.host.1 = some host ∧
        isPath (!parts.scheme.isEmpty)
          (!parts.userInfo.isEmpty || !host.isEmpty || service.isSome) parts.path = true ∧
        parts.address host service = address := by
  have hparts : ofParts parts = (serviceOf parts.scheme parts.host.2).bind fun service =>
      (Host.normalize? parts.host.1).elim (.error .malformedAddress) fun host =>
        if !isPath (!parts.scheme.isEmpty)
            (!parts.userInfo.isEmpty || !host.isEmpty || service.isSome) parts.path then
          .error .malformedAddress
        else .ok (parts.address host service) := by
    rw [ofParts]
    refine congrArg (Except.bind _) (funext fun service => ?_)
    split
    · next hhost =>
      have hnone : Host.normalize? parts.host.1 = none := hhost
      rw [hnone]
      rfl
    · next host hhost =>
      have hsome : Host.normalize? parts.host.1 = some host := hhost
      rw [hsome]
      rfl
  rw [hparts]
  cases serviceOf parts.scheme parts.host.2 with
  | error e => simp [Except.bind]
  | ok service =>
    cases Host.normalize? parts.host.1 with
    | none => simp [Except.bind]
    | some host =>
      cases hpath : isPath (!parts.scheme.isEmpty)
        (!parts.userInfo.isEmpty || !host.isEmpty || service.isSome) parts.path <;>
        simp [Except.bind, hpath]

/-- Addresses that differ at most in the name at the end of path or query. -/
structure Siblings (address address' : Address) : Prop where
  scheme_eq : address.scheme = address'.scheme
  userInfo_eq : address.userInfo = address'.userInfo
  host_eq : address.host = address'.host
  service_eq : address.service = address'.service
  cut : CutTwin (address.path, address.query) (address'.path, address'.query)

/-- Encoding path and query, after the dots of the path have been carried out or not. -/
theorem CutTwin.encode {path path' : List Char} {query query' : Option (List Char)}
    (h : CutTwin (path, query) (path', query')) (dots : Bool) :
    CutTwin
      (Percent.encode staysInPath (if dots then withoutDots path else path),
        query.map (Percent.encode staysInQuery))
      (Percent.encode staysInPath (if dots then withoutDots path' else path'),
        query'.map (Percent.encode staysInQuery)) := by
  cases h with
  | whole h =>
    have hpath : Twin (if dots then withoutDots path else path)
        (if dots then withoutDots path' else path') := by
      cases dots with
      | true => exact h.withoutDots
      | false => exact h
    exact .whole (hpath.encode (by decide))
  | cut before h => exact .cut _ (h.encode (by decide))

/-- Parts that differ at most in the name at the end of path or query make such addresses. -/
theorem exists_ofParts {parts : Parts} {address : Address} (h : ofParts parts = .ok address)
    (parts' : Parts) (hscheme : parts.scheme = parts'.scheme)
    (hauthority : parts.authority = parts'.authority)
    (hcut : CutTwin (parts.path, parts.query) (parts'.path, parts'.query)) :
    ∃ address', ofParts parts' = .ok address' ∧ Siblings address address' ∧
      (parts.fragment = parts'.fragment → address.fragment = address'.fragment) := by
  obtain ⟨scheme, authority, path, query, fragment⟩ := parts
  obtain ⟨_, _, path', query', fragment'⟩ := parts'
  obtain rfl : scheme = _ := hscheme
  obtain rfl : authority = _ := hauthority
  obtain ⟨host, service, hservice, hhost, hpath, rfl⟩ := ofParts_eq_ok_iff.mp h
  have hsame : ∀ hasScheme hasHost,
      isPath hasScheme hasHost path = isPath hasScheme hasHost path' := by
    intro hasScheme hasHost
    cases hcut with
    | whole h => exact h.isPath_eq hasScheme hasHost
    | cut before h => rfl
  refine ⟨_, ofParts_eq_ok_iff.mpr ⟨host, service, hservice, hhost, hsame _ _ ▸ hpath, rfl⟩,
    ⟨rfl, rfl, rfl, rfl, hcut.encode _⟩, fun hfragment => ?_⟩
  exact congrArg (Option.map (Percent.encode staysInFragment)) hfragment

/-! ## Reading the path of an index -/

/-- What is asked of the host differs at most in the name at its end. -/
theorem Siblings.target {address address' : Address} (h : Siblings address address') :
    Twin address.target address'.target := by
  obtain ⟨scheme, userInfo, host, service, path, query, fragment⟩ := address
  obtain ⟨scheme', userInfo', host', service', path', query', fragment'⟩ := address'
  have hcut : CutTwin (path, query) (path', query') := h.cut
  show Twin ((if path.isEmpty then ['/'] else path) ++ (query.map ('?' :: ·)).getD [])
    ((if path'.isEmpty then ['/'] else path') ++ (query'.map ('?' :: ·)).getD [])
  cases hcut with
  | whole hpath =>
    rw [← hpath.isEmpty_eq, Option.map_none, Option.getD_none, List.append_nil, List.append_nil]
    split
    · exact .same _
    · exact hpath
  | cut before hquery => exact (hquery.append_left ['?']).append_left _

/-- The path to a name below an index, as a row of characters. -/
def belowIndex (index name : List Char) : List Char :=
  '/' :: (index ++ '/' :: name)

theorem toList_belowIndex (index : String) {step : String} {name : List Char}
    (h : step.toList = '/' :: name) :
    ("/" ++ index ++ step).toList = belowIndex index.toList name := by
  rw [String.toList_append, String.toList_append, h, List.append_assoc]
  rfl

theorem exists_cutAuthority {index : List Char} (h : index ≠ []) :
    ∃ authority start, ∀ name,
      cutAuthority (belowIndex index name) = (authority, start ++ name) := by
  have hstop : ∀ (p : Char → Bool) (cs name : List Char), p '/' = false →
      (cs ++ '/' :: name).takeWhile p = cs.takeWhile p ∧
        (cs ++ '/' :: name).dropWhile p = cs.dropWhile p ++ '/' :: name := by
    intro p cs name hp
    induction cs with
    | nil => simp [hp]
    | cons c cs ih =>
      rw [List.cons_append, List.takeWhile_cons, List.takeWhile_cons, List.dropWhile_cons,
        List.dropWhile_cons, ih.1, ih.2]
      split <;> exact ⟨rfl, rfl⟩
  obtain ⟨c, rest, rfl⟩ := List.exists_cons_of_ne_nil h
  by_cases hc : c = '/'
  · subst hc
    let continues (c : Char) : Bool := !(c == '/' || c == '?' || c == '#')
    refine ⟨rest.takeWhile continues, rest.dropWhile continues ++ ['/'], fun name => ?_⟩
    obtain ⟨htake, hdrop⟩ := hstop continues rest name rfl
    rw [List.append_assoc, List.singleton_append, ← htake, ← hdrop]
    rfl
  · refine ⟨[], '/' :: c :: (rest ++ ['/']), fun name => ?_⟩
    rw [belowIndex, cutAuthority]
    · simp
    · exact fun cs heq => absurd (List.cons.inj (List.cons.inj heq).2).1 hc

theorem parse_eq_ok_iff {text : String} {address : Address} :
    parse text = .ok address ↔
      text.toList.length ≤ lengthLimit ∧ text.toList.any isControl = false ∧
        ofParts (Parts.ofText text.toList) = .ok address := by
  rw [parse]
  split
  · next hbad =>
    refine iff_of_false (fun h => nomatch h) ?_
    rintro ⟨hlength, hcontrol, -⟩
    rw [hcontrol, Bool.or_false, decide_eq_true_eq] at hbad
    exact Nat.not_lt.mpr hlength hbad
  · next hgood =>
    rw [Bool.not_eq_true, Bool.or_eq_false_iff, decide_eq_false_iff_not, Nat.not_lt] at hgood
    rw [and_iff_right hgood.1, and_iff_right hgood.2]

/-- The parts of two paths below an index differ at most in the name at their end. -/
theorem cutTwin_ofText {index : List Char} (h : index ≠ []) :
    (Parts.ofText (belowIndex index mappingName)).scheme =
        (Parts.ofText (belowIndex index searchName)).scheme ∧
      (Parts.ofText (belowIndex index mappingName)).authority =
        (Parts.ofText (belowIndex index searchName)).authority ∧
      CutTwin
        ((Parts.ofText (belowIndex index mappingName)).path,
          (Parts.ofText (belowIndex index mappingName)).query)
        ((Parts.ofText (belowIndex index searchName)).path,
          (Parts.ofText (belowIndex index searchName)).query) := by
  obtain ⟨authority, start, hauthority⟩ := exists_cutAuthority h
  have hparts : ∀ name, Parts.ofText (belowIndex index name) =
      ⟨[], authority, (cutAt '?' (cutAt '#' (start ++ name)).1).1,
        (cutAt '?' (cutAt '#' (start ++ name)).1).2, (cutAt '#' (start ++ name)).2⟩ := by
    intro name
    have hscheme : cutScheme (belowIndex index name) = ([], belowIndex index name) := rfl
    rw [Parts.ofText, hscheme]
    dsimp only
    rw [hauthority]
  rw [hparts, hparts]
  refine ⟨rfl, rfl, ?_⟩
  have hfragment : CutTwin (cutAt '#' (start ++ mappingName)) (cutAt '#' (start ++ searchName)) :=
    (Twin.named start).cutAt (by decide)
  generalize cutAt '#' (start ++ mappingName) = cut, cutAt '#' (start ++ searchName) = cut'
    at hfragment
  cases hfragment with
  | whole htwin => exact htwin.cutAt (by decide)
  | cut before htwin => exact .same _

/-- Where the address of a mapping can be read, so can that of searches. -/
theorem exists_parse_search {index : String} {address : Address}
    (h : parse ("/" ++ index ++ "/_mapping") = .ok address) :
    ∃ address', parse ("/" ++ index ++ "/_search") = .ok address' ∧
      Twin address.target address'.target := by
  have hmapping : ("/" ++ index ++ "/_mapping").toList = belowIndex index.toList mappingName :=
    toList_belowIndex index (by decide)
  have hsearch : ("/" ++ index ++ "/_search").toList = belowIndex index.toList searchName :=
    toList_belowIndex index (by decide)
  by_cases hempty : index = ""
  · -- The names stand for hosts here, and what is asked of them is the same.
    subst hempty
    have haddress : parse "//_mapping" = .ok ⟨[], [], mappingName, none, [], none, none⟩ := by
      decide +kernel
    obtain rfl : _ = address := Except.ok.inj (haddress.symm.trans h)
    exact ⟨⟨[], [], searchName, none, [], none, none⟩, by decide +kernel, .same _⟩
  · have hindex : index.toList ≠ [] := fun hnil => hempty (String.toList_eq_nil_iff.mp hnil)
    obtain ⟨hlength, hcontrol, hparts⟩ := parse_eq_ok_iff.mp h
    rw [hmapping] at hlength hcontrol hparts
    obtain ⟨hscheme, hauthority, hcut⟩ := cutTwin_ofText hindex
    obtain ⟨address', haddress', hsiblings, -⟩ := exists_ofParts hparts _ hscheme hauthority hcut
    have htwin :
        Twin (belowIndex index.toList mappingName) (belowIndex index.toList searchName) := by
      have hnamed := Twin.named ('/' :: (index.toList ++ ['/']))
      rw [List.cons_append, List.cons_append, List.append_assoc, List.append_assoc] at hnamed
      exact hnamed
    refine ⟨address', parse_eq_ok_iff.mpr ?_, hsiblings.target⟩
    rw [hsearch]
    refine ⟨htwin.length_le.trans hlength, ?_, haddress'⟩
    rw [← htwin.any_eq (by decide)]
    exact hcontrol

/-! ## Below a base -/

/-- An address of ASCII characters has a sibling of ASCII characters. -/
theorem Siblings.all_isAscii {address address' : Address} (h : Siblings address address')
    (hfragment : address.fragment = address'.fragment) :
    address.text.toList.all isAscii = address'.text.toList.all isAscii := by
  obtain ⟨scheme, userInfo, host, service, path, query, fragment⟩ := address
  obtain ⟨scheme', userInfo', host', service', path', query', fragment'⟩ := address'
  obtain rfl : scheme = _ := h.scheme_eq
  obtain rfl : userInfo = _ := h.userInfo_eq
  obtain rfl : host = _ := h.host_eq
  obtain rfl : service = _ := h.service_eq
  obtain rfl : fragment = _ := hfragment
  have hcut : CutTwin (path, query) (path', query') := h.cut
  simp only [text, String.toList_ofList, List.all_append]
  cases hcut with
  | whole hpath => rw [hpath.all_eq (by decide)]; rfl
  | cut before hquery =>
    have hall := hquery.all_eq (by decide : (mappingName ++ searchName).all isAscii = true)
    simp only [Option.map_some, Option.getD_some, List.all_cons, hall]
    rfl

theorem CutTwin.length_le {path path' : List Char} {query query' : Option (List Char)}
    (h : CutTwin (path, query) (path', query')) :
    path'.length ≤ path.length ∧ (query'.getD []).length ≤ (query.getD []).length := by
  cases h with
  | whole hpath => exact ⟨hpath.length_le, le_rfl⟩
  | cut before hquery => exact ⟨le_rfl, hquery.length_le⟩

/-- Where a target can be asked for, so can its twin, which is not longer. -/
theorem exists_withTarget {base address : Address} {target target' : List Char}
    (htarget : Twin target target') (h : base.withTarget target = .ok address) :
    ∃ address', base.withTarget target' = .ok address' ∧ Siblings address address' ∧
      address.fragment = address'.fragment := by
  have hcut : CutTwin (cutAt '?' target) (cutAt '?' target') := htarget.cutAt (by decide)
  rw [withTarget] at h ⊢
  dsimp only at h ⊢
  generalize cutAt '?' target = cut, cutAt '?' target' = cut' at h hcut ⊢
  obtain ⟨path, query⟩ := cut
  obtain ⟨path', query'⟩ := cut'
  obtain ⟨hpath, hquery⟩ := hcut.length_le
  split at h
  · cases h
  · next hsizes =>
    have hsizes' : ¬ (([base.scheme, base.authority, path', query'.getD [],
        base.fragment.getD []].map List.length).any (lengthLimit < ·)) = true := by
      simp only [List.map_cons, List.map_nil, List.any_cons, List.any_nil, Bool.or_false,
        Bool.or_eq_true, decide_eq_true_eq, not_or, Nat.not_lt] at hsizes ⊢
      omega
    rw [if_neg hsizes']
    obtain ⟨address', haddress', hsiblings, hfragment⟩ := exists_ofParts h
      ⟨base.scheme, base.authority, path', query', base.fragment⟩ rfl rfl hcut
    exact ⟨address', haddress', hsiblings, hfragment rfl⟩

/-! ## The result -/

/-- Where a mapping can be asked for below a base, searches can be sent. -/
theorem exists_resolve_search {base address : Address} {index : String}
    (h : base.resolve ("/" ++ index ++ "/_mapping") = .ok address) :
    ∃ address', base.resolve ("/" ++ index ++ "/_search") = .ok address' := by
  obtain ⟨reference, hreference, h⟩ := bind_eq_ok h
  obtain ⟨below, hbelow, h⟩ := bind_eq_ok h
  obtain ⟨reference', hreference', htarget⟩ := exists_parse_search hreference
  obtain ⟨below', hbelow', hsiblings, hfragment⟩ :=
    exists_withTarget (htarget.dropWhile_slash.append_left base.target) hbelow
  have hascii : below'.text.toList.all isAscii = true := by
    rw [← hsiblings.all_isAscii hfragment]
    by_contra hnot
    rw [if_neg hnot] at h
    cases h
  refine ⟨below', ?_⟩
  show (parse _).bind _ = _
  rw [hreference']
  show (base.withTarget _).bind _ = _
  rw [hbelow']
  exact if_pos hascii

end SearchFilter.Address
