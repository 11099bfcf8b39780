import BuildTrace.Precompile.Expand

/-!
# Visits — files in the order they are first met

Going through the includes of a text in depth, and of each file only the first time, meets files in
an order that hangs on the includes alone:

* `FirstVisits` — the files met, by what is known before and what each file includes;
* `FirstVisits.split` — a list of includes gone through in two parts;
* `FirstVisits.unique` — there is one such order;
* `FirstVisits.distinct` — no file is met twice, and none that was known;
* `FirstVisits.forall_found` — what is met belongs to whatever is closed under includes;
* `FirstVisits.closed` — and nothing that is included is missed.
-/

namespace BuildTrace

open Expansion

/-- Going through `todo`, when `seen` is known already, meets the files `found`: one that is known
is passed by, and with a new one come those met by going through its includes, before the rest. -/
inductive FirstVisits (next : Path → List Path) : List Path → List Path → List Path → Prop where
  | done (seen : List Path) : FirstVisits next seen [] []
  | again {seen todo found : List Path} {p : Path} :
      isSeen seen p = true → FirstVisits next seen todo found →
        FirstVisits next seen (p :: todo) found
  | enter {seen todo inner found : List Path} {p : Path} :
      isSeen seen p = false → FirstVisits next (p :: seen) (next p) inner →
        FirstVisits next (inner.reverse ++ p :: seen) todo found →
          FirstVisits next seen (p :: todo) (p :: inner ++ found)

/-! ## Known files -/

section Seen

variable {seen : List Path} {p q : Path}

theorem isSeen_iff : isSeen seen p = true ↔ ∃ q ∈ seen, p.Same q := by
  simp [isSeen]

theorem isSeen_of_mem (h : p ∈ seen) : isSeen seen p = true :=
  isSeen_iff.2 ⟨p, h, .refl p⟩

theorem isSeen_of_subset {seen' : List Path} (hsub : seen ⊆ seen') (h : isSeen seen p = true) :
    isSeen seen' p = true := by
  rcases isSeen_iff.1 h with ⟨q, hq, hsame⟩
  exact isSeen_iff.2 ⟨q, hsub hq, hsame⟩

theorem isSeen_eq_false_of_subset {seen' : List Path} (hsub : seen ⊆ seen')
    (h : isSeen seen' p = false) : isSeen seen p = false := by
  cases hp : isSeen seen p with
  | false => rfl
  | true => exact absurd (isSeen_of_subset hsub hp) (by simp [h])

theorem not_same_of_isSeen_eq_false (h : isSeen seen p = false) (hq : q ∈ seen) : ¬ p.Same q := by
  intro hsame
  exact absurd (isSeen_iff.2 ⟨q, hq, hsame⟩) (by simp [h])

end Seen

namespace FirstVisits

variable {next : Path → List Path} {seen todo found : List Path}

/-- Two lists of includes are gone through one after the other. -/
theorem split : ∀ {front back found seen : List Path},
    FirstVisits next seen (front ++ back) found →
      ∃ inner outer, found = inner ++ outer ∧ FirstVisits next seen front inner ∧
        FirstVisits next (inner.reverse ++ seen) back outer := by
  intro front
  -- On the first list: what its first file is met with stays with it.
  induction front with
  | nil =>
      intro back found seen h
      exact ⟨[], found, rfl, .done seen, h⟩
  | cons p front ih =>
      intro back found seen h
      cases h with
      | again hseen hrest =>
          rcases ih hrest with ⟨inner, outer, rfl, hfront, hback⟩
          exact ⟨inner, outer, rfl, .again hseen hfront, hback⟩
      | @enter _ _ below found _ hnew hbelow hrest =>
          rcases ih hrest with ⟨inner, outer, rfl, hfront, hback⟩
          refine ⟨p :: below ++ inner, outer, by simp, .enter hnew hbelow hfront, ?_⟩
          simpa using hback

/-- There is one such order. -/
theorem unique (h : FirstVisits next seen todo found) :
    ∀ {found' : List Path}, FirstVisits next seen todo found' → found = found' := by
  induction h with
  | done =>
      intro found' h'
      cases h'
      rfl
  | again hseen _ ih =>
      intro found' h'
      cases h' with
      | again _ hrest' => exact ih hrest'
      | enter hnew => simp [hseen] at hnew
  | enter hnew _ _ ihInner ihRest =>
      intro found' h'
      cases h' with
      | again hseen => simp [hnew] at hseen
      | enter _ hinner' hrest' =>
          cases ihInner hinner'
          rw [ihRest hrest']

/-- No file is met twice, and none that is known. -/
theorem distinct (h : FirstVisits next seen todo found) :
    found.Pairwise (fun p q => ¬ p.Same q) ∧ ∀ q ∈ found, isSeen seen q = false := by
  induction h with
  | done => exact ⟨.nil, nofun⟩
  | again _ _ ih => exact ih
  | @enter seen todo inner found p hnew _ _ ihInner ihRest =>
      -- What is met later differs from `p` and all met below it, since these are known by then.
      have hlater : ∀ q ∈ found, ∀ r ∈ p :: inner, ¬ r.Same q := by
        intro q hq r hr hsame
        have hmem : r ∈ inner.reverse ++ p :: seen := by
          rcases List.mem_cons.1 hr with rfl | hr
          · simp
          · simp [hr]
        exact not_same_of_isSeen_eq_false (ihRest.2 q hq) hmem hsame.symm
      have hfirst : (p :: inner).Pairwise fun p q => ¬ p.Same q := by
        refine List.pairwise_cons.2 ⟨?_, ihInner.1⟩
        intro q hq hsame
        exact not_same_of_isSeen_eq_false (ihInner.2 q hq) List.mem_cons_self hsame.symm
      refine ⟨List.pairwise_append.2 ⟨hfirst, ihRest.1, fun r hr q hq => hlater q hq r hr⟩, ?_⟩
      intro q hq
      rcases List.mem_append.1 hq with hq | hq
      · rcases List.mem_cons.1 hq with rfl | hq
        · exact hnew
        · exact isSeen_eq_false_of_subset (List.subset_cons_self p seen) (ihInner.2 q hq)
      · exact isSeen_eq_false_of_subset (fun r hr => by simp [hr]) (ihRest.2 q hq)

/-- What is met has every property that passes from a new file to its includes. -/
theorem forall_found {P : Path → Prop} (h : FirstVisits next seen todo found)
    (hstep : ∀ p, P p → isSeen seen p = false → ∀ q ∈ next p, P q) (htodo : ∀ p ∈ todo, P p) :
    ∀ q ∈ found, P q := by
  induction h with
  | done => exact nofun
  | again _ _ ih => exact ih hstep fun p hp => htodo p (List.mem_cons_of_mem _ hp)
  | @enter seen todo inner found p hnew _ _ ihInner ihRest =>
      have hp : P p := htodo p List.mem_cons_self
      intro q hq
      rcases List.mem_append.1 hq with hq | hq
      · rcases List.mem_cons.1 hq with rfl | hq
        · exact hp
        · refine ihInner ?_ (hstep p hp hnew) q hq
          intro r hr hnew'
          exact hstep r hr (isSeen_eq_false_of_subset (List.subset_cons_self p seen) hnew')
      · refine ihRest ?_ (fun r hr => htodo r (List.mem_cons_of_mem _ hr)) q hq
        intro r hr hnew'
        exact hstep r hr (isSeen_eq_false_of_subset (fun t ht => by simp [ht]) hnew')

/-- In the end all includes gone through are known, and so are those of the files met. -/
theorem closed (h : FirstVisits next seen todo found) :
    (∀ p ∈ todo, isSeen (found ++ seen) p = true) ∧
      ∀ q ∈ found, ∀ r ∈ next q, isSeen (found ++ seen) r = true := by
  induction h with
  | done => exact ⟨nofun, nofun⟩
  | again hseen _ ih =>
      refine ⟨?_, ih.2⟩
      intro q hq
      rcases List.mem_cons.1 hq with rfl | hq
      · exact isSeen_of_subset (List.subset_append_right _ _) hseen
      · exact ih.1 q hq
  | @enter seen todo inner found p hnew _ _ ihInner ihRest =>
      -- The invariant is about all that is known in the end; both parts know less.
      have hinner : inner ++ p :: seen ⊆ p :: inner ++ found ++ seen := by
        intro r hr
        simp only [List.mem_append, List.mem_cons] at hr ⊢
        rcases hr with hr | rfl | hr
        · exact Or.inl (Or.inl (Or.inr hr))
        · exact Or.inl (Or.inl (Or.inl rfl))
        · exact Or.inr hr
      have hrest : found ++ (inner.reverse ++ p :: seen) ⊆ p :: inner ++ found ++ seen := by
        intro r hr
        rcases List.mem_append.1 hr with hr | hr
        · simp [hr]
        · exact hinner (by simpa using hr)
      refine ⟨?_, ?_⟩
      · intro q hq
        rcases List.mem_cons.1 hq with rfl | hq
        · exact isSeen_of_mem (by simp)
        · exact isSeen_of_subset hrest (ihRest.1 q hq)
      · intro q hq r hr
        rcases List.mem_append.1 hq with hq | hq
        · rcases List.mem_cons.1 hq with rfl | hq
          · exact isSeen_of_subset hinner (ihInner.1 r hr)
          · exact isSeen_of_subset hinner (ihInner.2 q hq r hr)
        · exact isSeen_of_subset hrest (ihRest.2 q hq r hr)

end FirstVisits
end BuildTrace
