import FixGrader.Proofs.Rules.Accepted
/-!
# Names that extend a known name

Of the known names that a name extends the longest one tells the rule set. Among names of one length
the last one counts, and the further names stand behind the categories; so where a name is both a
category and a further name, it means its category by itself, but the other's rule set with something
behind a dash.
-/
namespace FixGrader.Registry

/-- Of two texts that both begin a third one, one begins the other. -/
theorem begins_of_length_le {a b : String} {text : List Char} (ha : a.toList <+: text)
    (hb : b.toList <+: text) (le : a.length ≤ b.length) : a.toList <+: b.toList :=
  List.prefix_of_prefix_length_le ha hb
    (by rwa [String.length_toList, String.length_toList])

theorem split_of_begins {a b : String} (h : a.toList <+: b.toList) :
    ∃ behind : List Char, b = a ++ String.ofList behind := by
  obtain ⟨behind, split⟩ := h
  refine ⟨behind, String.toList_injective ?_⟩
  rw [String.toList_append, String.toList_ofList, split]

theorem utf8ByteSize_le_of_begins {a b : String} (h : a.toList <+: b.toList) :
    a.utf8ByteSize ≤ b.utf8ByteSize := by
  obtain ⟨behind, rfl⟩ := split_of_begins h
  rw [String.utf8ByteSize_append]
  omega

theorem eq_of_begins {a b : String} (h : a.toList <+: b.toList)
    (same : a.utf8ByteSize = b.utf8ByteSize) : a = b := by
  obtain ⟨behind, rfl⟩ := split_of_begins h
  rw [String.utf8ByteSize_append] at same
  have empty : String.ofList behind = "" := String.utf8ByteSize_eq_zero_iff.mp (by omega)
  rw [empty, String.append_empty]

theorem begins_of_hasStem {name stem : String} (h : hasStem name stem = true) :
    stem.toList <+: name.toList :=
  (List.prefix_append stem.toList ['-']).trans (List.isPrefixOf_iff_prefix.mp h)

/-- Two stems of a name that have one length in bytes are one. -/
theorem eq_of_hasStem {name a b : String} (ha : hasStem name a = true) (hb : hasStem name b = true)
    (same : a.utf8ByteSize = b.utf8ByteSize) : a = b := by
  rcases Nat.le_total a.length b.length with le | le
  · exact eq_of_begins (begins_of_length_le (begins_of_hasStem ha) (begins_of_hasStem hb) le) same
  · exact (eq_of_begins (begins_of_length_le (begins_of_hasStem hb) (begins_of_hasStem ha) le)
      same.symm).symm

/-- The longest name is the last one of the greatest size. -/
theorem longest_eq_getLast? {names : List (String × String)} {size : Nat}
    (bounded : ∀ n ∈ names, n.1.utf8ByteSize ≤ size)
    (reached : ∃ n ∈ names, n.1.utf8ByteSize = size) :
    longest names = (names.filter (·.1.utf8ByteSize = size)).getLast? := by
  -- from the end of the list, since a later name is preferred to an earlier one of the same size
  induction names using List.reverseRecOn with
  | nil =>
    obtain ⟨n, listed, -⟩ := reached
    cases listed
  | append_singleton names name ih =>
    have earlier : ∀ n ∈ names, n.1.utf8ByteSize ≤ size :=
      fun n listed => bounded n (List.mem_append_left _ listed)
    rw [longest_concat, List.filter_append]
    by_cases whole : name.1.utf8ByteSize = size
    · have last : List.filter (fun n => decide (n.1.utf8ByteSize = size)) [name] = [name] := by
        simp [whole]
      rw [last, List.getLast?_concat]
      cases best : longest names with
      | none => rfl
      | some b => exact if_pos (whole ▸ earlier b (longest_mem best))
    · have shorter : List.filter (fun n => decide (n.1.utf8ByteSize = size)) [name] = [] := by
        simp [whole]
      have reached_earlier : ∃ n ∈ names, n.1.utf8ByteSize = size := by
        obtain ⟨n, listed, same⟩ := reached
        rcases List.mem_append.mp listed with before | last
        · exact ⟨n, before, same⟩
        · rw [List.mem_singleton.mp last] at same
          exact absurd same whole
      have chosen := ih earlier reached_earlier
      rw [shorter, List.append_nil, ← chosen]
      cases best : longest names with
      | none =>
        obtain ⟨n, listed, same⟩ := reached_earlier
        rw [best] at chosen
        have unreached := List.filter_eq_nil_iff.mp (List.getLast?_eq_none_iff.mp chosen.symm)
        exact absurd (decide_eq_true same) (unreached n listed)
      | some b =>
        rw [best] at chosen
        have of_size : b.1.utf8ByteSize = size :=
          of_decide_eq_true (List.mem_filter.mp (List.mem_of_getLast? chosen.symm)).2
        have below : name.1.utf8ByteSize ≤ size := bounded name (by simp)
        exact if_neg (by omega)

variable {r : Registry}

theorem getLast?_eq_some {α : Type} {l : List α} {a : α} (filled : a ∈ l) (same : ∀ b ∈ l, b = a) :
    l.getLast? = some a := by
  cases last : l.getLast? with
  | none =>
    rw [List.getLast?_eq_none_iff.mp last] at filled
    cases filled
  | some b => rw [same b (List.mem_of_getLast? last)]

/-- The last entry of a known name: that of the further name, if there is one. -/
theorem getLast?_knownNames {name target : String} (known : (name, target) ∈ r.knownNames) :
    (r.knownNames.filter (·.1 = name)).getLast? =
      some (name, (r.aliases.get? name).getD name) := by
  have named : ∀ {entry : String × String} {l : List (String × String)},
      entry ∈ l.filter (·.1 = name) → entry ∈ l ∧ entry.1 = name := by
    intro entry l listed
    exact ⟨(List.mem_filter.mp listed).1, of_decide_eq_true (List.mem_filter.mp listed).2⟩
  rw [knownNames, List.filter_append, List.getLast?_append]
  cases stands : r.aliases.get? name with
  | some target' =>
    have last : (r.aliases.entries.filter (·.1 = name)).getLast? = some (name, target') := by
      apply getLast?_eq_some
      · exact List.mem_filter.mpr ⟨NameTable.get?_eq_some_iff.mp stands, decide_eq_true rfl⟩
      · rintro ⟨name', target''⟩ listed
        obtain ⟨entered, rfl⟩ := named listed
        have stands' := NameTable.get?_eq_some_iff.mpr entered
        rw [stands] at stands'
        rw [Option.some.inj stands']
    rw [last]
    rfl
  | none =>
    have unnamed : r.aliases.entries.filter (·.1 = name) = [] := by
      rw [List.filter_eq_nil_iff]
      rintro ⟨name', target'⟩ entered same
      cases of_decide_eq_true same
      rw [NameTable.get?_eq_some_iff.mpr entered] at stands
      cases stands
    rw [unnamed, List.getLast?_nil, Option.none_or]
    apply getLast?_eq_some
    · rcases mem_knownNames_iff.mp known with ⟨-, there⟩ | stands'
      · obtain ⟨s, found⟩ := Option.isSome_iff_exists.mp there
        obtain ⟨listed, rfl⟩ := lookup_some found
        exact List.mem_filter.mpr ⟨List.mem_map.mpr ⟨s, listed, rfl⟩, decide_eq_true rfl⟩
      · rw [stands] at stands'
        cases stands'
    · intro entry listed
      obtain ⟨mapped, same⟩ := named listed
      obtain ⟨s, -, rfl⟩ := List.mem_map.mp mapped
      cases same
      rfl

/-- A name whose longest stem is the given one gets the rule set of this stem's further name, or of
its category where it is no further name. -/
theorem lookupStem_eq {name stem target : String} (known : (stem, target) ∈ r.knownNames)
    (extended : hasStem name stem = true)
    (utmost : ∀ known ∈ r.knownNames, hasStem name known.1 = true → known.1.length ≤ stem.length) :
    r.lookupStem name = r.lookup ((r.aliases.get? stem).getD stem) := by
  have bounded : ∀ n ∈ r.knownNames.filter (fun known => hasStem name known.1),
      n.1.utf8ByteSize ≤ stem.utf8ByteSize := by
    intro n listed
    obtain ⟨listed, reaches⟩ := List.mem_filter.mp listed
    exact utf8ByteSize_le_of_begins (begins_of_length_le (begins_of_hasStem reaches)
      (begins_of_hasStem extended) (utmost n listed reaches))
  have reached : ∃ n ∈ r.knownNames.filter (fun known => hasStem name known.1),
      n.1.utf8ByteSize = stem.utf8ByteSize :=
    ⟨(stem, target), List.mem_filter.mpr ⟨known, extended⟩, rfl⟩
  have only : (r.knownNames.filter (fun known => hasStem name known.1)).filter
      (·.1.utf8ByteSize = stem.utf8ByteSize) = r.knownNames.filter (·.1 = stem) := by
    rw [List.filter_filter]
    refine List.filter_congr fun n _ => ?_
    rw [Bool.eq_iff_iff, Bool.and_eq_true, decide_eq_true_iff, decide_eq_true_iff]
    constructor
    · exact fun ⟨same, reaches⟩ => eq_of_hasStem reaches extended same
    · rintro rfl
      exact ⟨rfl, extended⟩
  rw [lookupStem, longest_eq_getLast? bounded reached, only, getLast?_knownNames known]
  rfl

theorem hasStem_append (stem suffix : String) : hasStem (stem ++ "-" ++ suffix) stem = true := by
  refine List.isPrefixOf_iff_prefix.mpr ⟨suffix.toList, ?_⟩
  rw [String.toList_append, String.toList_append]
  rfl

/-- The name of a rule set or a further name, with the category that it stands for by itself. -/
theorem known_of_resolved {name : String} {found : Resolution} (plain : normalized name = name)
    (resolved : r.resolve name = some found)
    (named : found.via = .category ∨ found.via = .otherName) :
    (name, found.ruleSet.category) ∈ r.knownNames ∧
      r.lookup found.ruleSet.category = some found.ruleSet ∧
        (r.aliases.get? name = none → found.ruleSet.category = name) := by
  obtain ⟨s, via⟩ := found
  rcases named with rfl | rfl
  · have looked := resolve_category_iff.mp resolved
    rw [plain] at looked
    obtain ⟨-, rfl⟩ := lookup_some looked
    refine ⟨mem_knownNames_iff.mpr (Or.inl ⟨rfl, ?_⟩), looked, fun _ => rfl⟩
    rw [looked]
    rfl
  · obtain ⟨-, stands⟩ := resolve_otherName_iff.mp resolved
    rw [plain] at stands
    obtain ⟨target, stands, looked⟩ := Option.bind_eq_some_iff.mp stands
    obtain ⟨-, rfl⟩ := lookup_some looked
    refine ⟨mem_knownNames_iff.mpr (Or.inr stands), looked, fun unnamed => ?_⟩
    rw [stands] at unnamed
    cases unnamed

/-- A name that extends a known one, and none that is longer, keeps the rule set of the known one
exactly if this is not a category that is also a further name of another one. -/
theorem resolve_extended_iff : ∀ (settings : RuleSettings) (r : Registry),
    withSettings settings = .ok r → ∀ (stem suffix : String) (found : Resolution),
    normalized stem = stem → r.resolve stem = some found →
    (found.via = .category ∨ found.via = .otherName) →
    normalized (stem ++ "-" ++ suffix) = stem ++ "-" ++ suffix →
    (∀ known ∈ r.knownNames, known.1 ≠ stem ++ "-" ++ suffix) →
    (∀ known ∈ r.knownNames, hasStem (stem ++ "-" ++ suffix) known.1 = true →
      known.1.length ≤ stem.length) →
    (r.resolve (stem ++ "-" ++ suffix) = some ⟨found.ruleSet, .stem⟩ ↔
      ∀ target, r.aliases.get? stem = some target → target = found.ruleSet.category) := by
  intro settings r accepted stem suffix found plain resolved named plain' fresh utmost
  have consistent := consistent_of_accepted accepted
  obtain ⟨known, own, unnamed⟩ := known_of_resolved plain resolved named
  have no_category : r.lookup (stem ++ "-" ++ suffix) = none := by
    rw [← Option.not_isSome_iff_eq_none]
    exact fun there => fresh _ (mem_knownNames_iff.mpr (Or.inl ⟨rfl, there⟩)) rfl
  have no_name : r.aliases.get? (stem ++ "-" ++ suffix) = none := by
    rw [Option.eq_none_iff_forall_ne_some]
    exact fun target stands => fresh _ (mem_knownNames_iff.mpr (Or.inr stands)) rfl
  rw [resolve_stem_iff, plain', no_category, no_name,
    lookupStem_eq known (hasStem_append stem suffix) utmost]
  simp only [Option.bind_none, true_and]
  cases stands : r.aliases.get? stem with
  | none =>
    rw [Option.getD_none, ← unnamed stands, own]
    simp
  | some target =>
    rw [Option.getD_some]
    constructor
    · intro same target' same'
      rw [← Option.some.inj same']
      exact (lookup_some same).2.symm
    · intro same
      rw [same target rfl]
      exact own

/-- A longer further name takes what lies behind it from the shorter one. -/
theorem resolve_extended_blind : ∃ r,
    withSettings { aliases := .ofList [("sqli-blind", "xss")] } = .ok r ∧
      r.told "sqli-time" = some ("sql-injection", .stem) ∧
      r.told "sqli-blind" = some ("xss", .otherName) ∧
      r.told "sqli-blind-time" = some ("xss", .stem) := by
  let r : Registry := { builtIn with aliases := builtIn.aliases.insert "sqli-blind" "xss" }
  have named : r.told "sqli-blind" = some ("xss", .otherName) := by decide
  refine ⟨r, rfl, by decide, named, ?_⟩
  obtain ⟨found, resolved, same⟩ := Option.map_eq_some_iff.mp named
  obtain ⟨category, via⟩ := Prod.mk.inj same
  have extended := (resolve_extended_iff { aliases := .ofList [("sqli-blind", "xss")] } r rfl
    "sqli-blind" "time" found (by decide) resolved (Or.inr via) (by decide) (by decide)
    (by decide)).mpr
  have stands : r.aliases.get? "sqli-blind" = some "xss" := by decide
  have kept : r.resolve "sqli-blind-time" = some ⟨found.ruleSet, .stem⟩ := by
    refine extended fun target same => ?_
    rw [stands] at same
    rw [← Option.some.inj same, category]
  rw [told, kept, Option.map_some, category]

/-- With `auth` as what `xss` stands for, `xss` is still its own category, but `xss-stored` is not. -/
theorem resolve_extended_overlaid : ∃ r,
    withSettings { aliases := .ofList [("xss", "auth")] } = .ok r ∧
      r.told "xss" = some ("xss", .category) ∧ r.told "xss-stored" = some ("auth", .stem) :=
  ⟨_, rfl, by decide, by decide⟩

end FixGrader.Registry
