import SearchFilter.Proofs.Address.Siblings
import SearchFilter.Proofs.QueryString.Decoding

/-!
# Names below a base

A base that can be asked for itself can be asked for the mapping of every index, if the name of the
index is one step of a path and is not too long: `exists_resolve_mapping`, with `FitsBelow` for the
name.  It can then be asked for searches too, as mappings and searches stand next to each other.

A name is read twice.  On its own it is a path below the root (`parse_slash`).  After the target of
the base it goes to the path, or to the query if the base has one (`isPath_cutAt_append`), and the
rest of the base is read again as it is for the base itself (`exists_withTarget_append`).
-/

namespace SearchFilter.Address

open SearchFilter.Text

/-! ## Encoded parts -/

/-- A character is encoded as itself, or as an escape. -/
theorem exists_encode_cons (stays : Char → Bool) (c : Char) (cs : List Char) :
    ∃ first rest, (first = c ∨ first = '%') ∧
      Percent.encode stays (c :: cs) = first :: (rest ++ Percent.encode stays cs) := by
  rw [Percent.encode, List.flatMap_cons]
  split
  · exact ⟨c, [], .inl rfl, rfl⟩
  · obtain ⟨b, bytes, hbytes⟩ := List.exists_cons_of_ne_nil (@String.utf8EncodeChar_ne_nil c)
    rw [hbytes]
    exact ⟨'%', _, .inr rfl, rfl⟩

theorem length_le_length_encode (stays : Char → Bool) (cs : List Char) :
    cs.length ≤ (Percent.encode stays cs).length := by
  induction cs with
  | nil => exact Nat.zero_le _
  | cons c cs ih =>
    obtain ⟨first, rest, _, hencode⟩ := exists_encode_cons stays c cs
    rw [hencode, List.length_cons, List.length_cons, List.length_append]
    omega

/-- An encoded part starts with a slash only if the part does. -/
theorem head?_encode_ne_slash (stays : Char → Bool) {path : List Char}
    (h : path.head? ≠ some '/') : (Percent.encode stays path).head? ≠ some '/' := by
  cases path with
  | nil => exact h
  | cons c path =>
    obtain ⟨first, rest, hfirst, hencode⟩ := exists_encode_cons stays c path
    rw [hencode]
    rcases hfirst with rfl | rfl
    · exact h
    · exact fun hhead => absurd (Option.some.inj hhead) (by decide)

theorem all_isAscii_encode (excluded : String) (cs : List Char) :
    (Percent.encode (Percent.staysBut excluded) cs).all isAscii = true := by
  rw [List.all_eq_true]
  refine QueryString.forall_mem_encode (fun c _ hstays => ?_) (by decide) (by decide)
  rw [Percent.staysBut, Bool.and_eq_true, Bool.and_eq_true, decide_eq_true_eq,
    decide_eq_true_eq] at hstays
  exact decide_eq_true (by omega)

/-- Query and fragment are ASCII, with the marks before them. -/
theorem all_isAscii_marked {mark : Char} (hmark : isAscii mark = true) (excluded : String)
    (part : Option (List Char)) :
    (((part.map (Percent.encode (Percent.staysBut excluded))).map (mark :: ·)).getD []).all
      isAscii = true := by
  cases part with
  | none => rfl
  | some cs =>
    show (mark :: Percent.encode (Percent.staysBut excluded) cs).all isAscii = true
    rw [List.all_cons, hmark, all_isAscii_encode]
    rfl

/-- Whether an address that parts make is ASCII depends on scheme, user, host and service. -/
theorem Parts.all_isAscii_address {parts parts' : Parts} (hscheme : parts.scheme = parts'.scheme)
    (hauthority : parts.authority = parts'.authority) (host : List Char) (service : Option Int) :
    (parts.address host service).text.toList.all isAscii =
      (parts'.address host service).text.toList.all isAscii := by
  obtain ⟨scheme, authority, path, query, fragment⟩ := parts
  obtain ⟨_, _, path', query', fragment'⟩ := parts'
  obtain rfl : scheme = _ := hscheme
  obtain rfl : authority = _ := hauthority
  have hpath : ∀ cs, (Percent.encode staysInPath cs).all isAscii = true :=
    all_isAscii_encode _
  have hquery : ∀ part : Option (List Char),
      (((part.map (Percent.encode staysInQuery)).map ('?' :: ·)).getD []).all isAscii = true :=
    all_isAscii_marked (by decide) _
  have hfragment : ∀ part : Option (List Char),
      (((part.map (Percent.encode staysInFragment)).map ('#' :: ·)).getD []).all isAscii = true :=
    all_isAscii_marked (by decide) _
  simp only [text, Parts.address, String.toList_ofList, List.all_append, hpath, hquery, hfragment]
  rfl

/-! ## Paths -/

/-- Whether a character belongs to the path in which it stands. -/
def isPathChar (c : Char) : Bool :=
  c != '?' && c != '#' && !isControl c

/-- The path below the root that is read from a text. -/
theorem parse_slash {path : List Char} (hhead : path.head? ≠ some '/')
    (hchars : path.all isPathChar = true) (hlength : path.length < lengthLimit) :
    parse (String.ofList ('/' :: path)) =
      .ok ⟨[], [], [], none, Percent.encode staysInPath ('/' :: path), none, none⟩ := by
  have hall : ∀ c ∈ '/' :: path, c ≠ '?' ∧ c ≠ '#' ∧ isControl c = false := by
    intro c hc
    have hchar : isPathChar c = true := by
      rcases List.mem_cons.mp hc with rfl | hc
      · rfl
      · exact List.all_eq_true.mp hchars c hc
    simpa only [isPathChar, Bool.and_eq_true, bne_iff_ne, Bool.not_eq_true', and_assoc] using hchar
  have hquery : '?' ∉ '/' :: path := fun hmem => (hall '?' hmem).1 rfl
  have hfragment : '#' ∉ '/' :: path := fun hmem => (hall '#' hmem).2.1 rfl
  have hauthority : cutAuthority ('/' :: path) = ([], '/' :: path) := by
    rw [cutAuthority]
    intro cs heq
    rw [(List.cons.inj heq).2] at hhead
    exact hhead rfl
  have hparts : Parts.ofText ('/' :: path) = ⟨[], [], '/' :: path, none, none⟩ := by
    have hscheme : cutScheme ('/' :: path) = ([], '/' :: path) := rfl
    rw [Parts.ofText, hscheme]
    dsimp only
    rw [hauthority]
    dsimp only
    rw [cutAt_of_not_mem hfragment]
    dsimp only
    rw [cutAt_of_not_mem hquery]
  have hisPath : isPath false false ('/' :: path) = true := by
    cases path with
    | nil => rfl
    | cons c rest =>
      have hc : ¬ '/' = c := fun heq => hhead (congrArg some heq.symm)
      simp [isPath, List.isPrefixOf, hc]
  rw [parse_eq_ok_iff, String.toList_ofList, hparts]
  refine ⟨hlength, ?_, ofParts_eq_ok_iff.mpr ⟨[], none, rfl, rfl, hisPath, rfl⟩⟩
  rw [List.any_eq_false]
  intro c hc
  rw [(hall c hc).2.2]
  exact Bool.false_ne_true

theorem isPath_append {path name : List Char} (hpath : path ≠ [])
    (hname : name.head? ≠ some '/') (hasScheme hasHost : Bool) :
    isPath hasScheme hasHost (path ++ name) = isPath hasScheme hasHost path := by
  obtain ⟨c, rest, rfl⟩ := List.exists_cons_of_ne_nil hpath
  have hslashes : ['/', '/'].isPrefixOf (c :: rest ++ name) =
      ['/', '/'].isPrefixOf (c :: rest) := by
    cases rest with
    | nil =>
      cases name with
      | nil => rfl
      | cons d others =>
        have hd : ¬ '/' = d := fun heq => hname (congrArg some heq.symm)
        simp [List.isPrefixOf, hd]
    | cons d others => simp [List.isPrefixOf]
  have hcolon : [':'].isPrefixOf (c :: rest ++ name) = [':'].isPrefixOf (c :: rest) := by
    simp [List.isPrefixOf]
  rw [isPath, isPath, hslashes, hcolon]
  rfl

/-! ## Targets -/

theorem target_ne_nil (base : Address) : base.target ≠ [] := by
  rw [target]
  split
  · simp
  · next hpath =>
    intro hnil
    exact hpath (List.isEmpty_iff.mpr (List.append_eq_nil_iff.mp hnil).1)

/-- What is written after a target goes to the path or to the query, and the path stays one that can
stand in an address. -/
theorem isPath_cutAt_append {target name : List Char} (htarget : target ≠ [])
    (hhead : name.head? ≠ some '/') (hmark : '?' ∉ name) (hasScheme hasHost : Bool) :
    isPath hasScheme hasHost (cutAt '?' (target ++ name)).1 =
      isPath hasScheme hasHost (cutAt '?' target).1 := by
  by_cases hquery : '?' ∈ target
  · obtain ⟨path, query, rfl, hpath⟩ := List.eq_append_cons_of_mem hquery
    rw [List.append_assoc, List.cons_append, cutAt_append hpath, cutAt_append hpath]
  · have hwhole : '?' ∉ target ++ name := by
      rw [List.mem_append, not_or]
      exact ⟨hquery, hmark⟩
    rw [cutAt_of_not_mem hquery, cutAt_of_not_mem hwhole]
    exact isPath_append htarget hhead hasScheme hasHost

/-- Parts with the same scheme and authority make addresses together, if the path of the ones can
stand where that of the others can. -/
theorem exists_ofParts_of_isPath {parts parts' : Parts} {address : Address}
    (h : ofParts parts = .ok address) (hscheme : parts.scheme = parts'.scheme)
    (hauthority : parts.authority = parts'.authority)
    (hpath : ∀ hasScheme hasHost,
      isPath hasScheme hasHost parts'.path = isPath hasScheme hasHost parts.path) :
    ∃ address', ofParts parts' = .ok address' ∧
      address'.text.toList.all isAscii = address.text.toList.all isAscii := by
  obtain ⟨host, service, hservice, hhost, hisPath, rfl⟩ := ofParts_eq_ok_iff.mp h
  have hsame : parts.host = parts'.host ∧ parts.userInfo = parts'.userInfo := by
    rw [Parts.host, Parts.host, Parts.userInfo, Parts.userInfo, hauthority]
    exact ⟨rfl, rfl⟩
  rw [hscheme, hsame.1] at hservice
  rw [hsame.1] at hhost
  rw [hscheme, hsame.2, ← hpath] at hisPath
  exact ⟨parts'.address host service,
    ofParts_eq_ok_iff.mpr ⟨host, service, hservice, hhost, hisPath, rfl⟩,
    (Parts.all_isAscii_address hscheme hauthority host service).symm⟩

/-- Where the target of a base can be asked for, so can what is written after it. -/
theorem exists_withTarget_append {base root : Address}
    (hroot : base.withTarget base.target = .ok root) {name : List Char}
    (hhead : name.head? ≠ some '/') (hmark : '?' ∉ name)
    (hlength : base.target.length + name.length ≤ lengthLimit) :
    ∃ address, base.withTarget (base.target ++ name) = .ok address ∧
      address.text.toList.all isAscii = root.text.toList.all isAscii := by
  have hpath := isPath_cutAt_append base.target_ne_nil hhead hmark
  have hcut := length_cutAt_le '?' (base.target ++ name)
  rw [List.length_append] at hcut
  rw [withTarget] at hroot ⊢
  dsimp only at hroot ⊢
  split at hroot
  · cases hroot
  · next hsizes =>
    simp only [List.map_cons, List.map_nil, List.any_cons, List.any_nil, Bool.or_false,
      Bool.or_eq_true, decide_eq_true_eq, not_or, Nat.not_lt] at hsizes
    rw [if_neg]
    · exact exists_ofParts_of_isPath hroot rfl rfl hpath
    · simp only [List.map_cons, List.map_nil, List.any_cons, List.any_nil, Bool.or_false,
        Bool.or_eq_true, decide_eq_true_eq, not_or, Nat.not_lt]
      omega

/-! ## Below a base -/

/-- What is asked of the host below a base. -/
theorem below_slash (base : Address) {path : List Char} (hhead : path.head? ≠ some '/') :
    base.below ⟨[], [], [], none, Percent.encode staysInPath ('/' :: path), none, none⟩ =
      base.withTarget (base.target ++ Percent.encode staysInPath path) := by
  have hdrop : (Percent.encode staysInPath path).dropWhile (· == '/') =
      Percent.encode staysInPath path := by
    have hencoded := head?_encode_ne_slash staysInPath hhead
    cases hfirst : Percent.encode staysInPath path with
    | nil => rfl
    | cons c rest =>
      rw [hfirst] at hencoded
      have hc : ¬ (c == '/') = true := fun heq => hencoded (congrArg some (beq_iff_eq.mp heq))
      rw [List.dropWhile_cons, if_neg hc]
  have hencode : Percent.encode staysInPath ('/' :: path) =
      '/' :: Percent.encode staysInPath path := by
    have hslash : staysInPath '/' = true := by decide
    rw [Percent.encode, List.flatMap_cons, if_pos hslash]
    rfl
  have htarget : target
      ⟨[], [], [], none, '/' :: Percent.encode staysInPath path, none, none⟩ =
      '/' :: Percent.encode staysInPath path := by
    rw [target, Option.map_none, Option.getD_none, List.append_nil]
    rfl
  rw [below, hencode, htarget, List.dropWhile_cons, if_pos (beq_self_eq_true '/'), hdrop]

/-- A path below a base is asked for as what is written after its target. -/
theorem resolve_slash (base : Address) {path : List Char} (hhead : path.head? ≠ some '/')
    (hchars : path.all isPathChar = true) (hlength : path.length < lengthLimit) :
    base.resolve (String.ofList ('/' :: path)) =
      (base.withTarget (base.target ++ Percent.encode staysInPath path)).bind fun address =>
        if address.text.toList.all isAscii then .ok address else .error .notAscii := by
  have hresolve : ∀ text, base.resolve text = (parse text).bind fun reference =>
      (base.below reference).bind fun address =>
        if address.text.toList.all isAscii then .ok address else .error .notAscii :=
    fun _ => rfl
  rw [hresolve, parse_slash hhead hchars hlength, Except.bind, below_slash base hhead]

/-- Where a base can be asked for itself, so can a path below it, if the address does not become too
long. -/
theorem exists_resolve_path {base root : Address} (hroot : base.resolve "/" = .ok root)
    {path : List Char} (hhead : path.head? ≠ some '/') (hchars : path.all isPathChar = true)
    (hlength : base.target.length + (Percent.encode staysInPath path).length ≤ lengthLimit) :
    ∃ address, base.resolve (String.ofList ('/' :: path)) = .ok address := by
  have hpath : path.length < lengthLimit := by
    have htarget := List.length_pos_of_ne_nil base.target_ne_nil
    have hencoded := length_le_length_encode staysInPath path
    omega
  have hself : base.resolve "/" = (base.withTarget (base.target ++ [])).bind fun address =>
      if address.text.toList.all isAscii then .ok address else .error .notAscii :=
    @resolve_slash base [] (by decide) (by decide) (by decide)
  rw [hself, List.append_nil] at hroot
  obtain ⟨asked, hasked, hroot⟩ := bind_eq_ok hroot
  have hascii : asked.text.toList.all isAscii = true := by
    by_contra hnot
    rw [if_neg hnot] at hroot
    cases hroot
  have hmark : '?' ∉ Percent.encode staysInPath path :=
    QueryString.not_mem_encode (by decide) (by decide) (by decide) path
  obtain ⟨address, haddress, hsame⟩ :=
    exists_withTarget_append hasked (head?_encode_ne_slash _ hhead) hmark hlength
  refine ⟨address, ?_⟩
  rw [resolve_slash base hhead hchars hpath, haddress]
  exact if_pos (hsame.trans hascii)

/-- Whether a character belongs to the name in which it stands. -/
def isNameChar (c : Char) : Bool :=
  c != '/' && isPathChar c

/-- The name of an index that is one step of a path, and not too long to be asked for below a
base. -/
structure FitsBelow (base : Address) (index : String) : Prop where
  ne_empty : index ≠ ""
  all_isNameChar : index.toList.all isNameChar = true
  length_le : base.target.length + (Percent.encode staysInPath index.toList).length +
    "/_mapping".length ≤ lengthLimit

theorem FitsBelow.head?_ne_slash {base : Address} {index : String} (h : FitsBelow base index) :
    index.toList.head? ≠ some '/' := by
  intro hhead
  have hslash := List.all_eq_true.mp h.all_isNameChar '/' (List.mem_of_head? hhead)
  exact absurd hslash (by decide)

theorem FitsBelow.all_isPathChar {base : Address} {index : String} (h : FitsBelow base index) :
    index.toList.all isPathChar = true := by
  rw [List.all_eq_true]
  intro c hc
  have hname := List.all_eq_true.mp h.all_isNameChar c hc
  rw [isNameChar, Bool.and_eq_true] at hname
  exact hname.2

/-- Where a base can be asked for itself, so can the mapping of an index that fits below it. -/
theorem exists_resolve_mapping {base root : Address} (hroot : base.resolve "/" = .ok root)
    {index : String} (hindex : FitsBelow base index) :
    ∃ address, base.resolve ("/" ++ index ++ "/_mapping") = .ok address := by
  have hpath : "/" ++ index ++ "/_mapping" =
      String.ofList ('/' :: (index.toList ++ '/' :: mappingName)) := by
    rw [← String.toList_inj, String.toList_ofList]
    exact toList_belowIndex index (by decide)
  rw [hpath]
  refine exists_resolve_path hroot ?_ ?_ ?_
  · rw [List.head?_append]
    cases hhead : index.toList.head? with
    | none =>
      have hnil := List.head?_eq_none_iff.mp hhead
      exact absurd (String.toList_eq_nil_iff.mp hnil) hindex.ne_empty
    | some c =>
      have hc := hindex.head?_ne_slash
      rw [hhead] at hc
      exact hc
  · rw [List.all_append, hindex.all_isPathChar]
    rfl
  · rw [encode_append, List.length_append, ← Nat.add_assoc]
    exact hindex.length_le

end SearchFilter.Address
