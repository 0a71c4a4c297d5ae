import Tether.Proofs.Address.Shape
import Tether.Proofs.Fingerprint.Order

namespace Tether

/-! # Addresses with commas between them

What can be read off a text in which addresses stand with commas between them. We show:

* `eq_of_intercalate_eq_of_plain`: plain addresses can all be read off;
* `eq_of_intercalate_eq`: ascending addresses can be read off where none but the last opens a bracket and the last
  cannot be cut in two ascending addresses (`Unmistakable`);
* `exists_twin`: otherwise other ascending addresses, in another number, give the same text.
-/

namespace Fingerprint

open Address

/-! ## Texts and lists of addresses -/

/-- All of them are accepted as addresses. -/
def Accepted (as : List String) : Prop := ∀ a ∈ as, (endpoint? a).isSome

theorem accepted_cons_iff {a : String} {as : List String} :
    Accepted (a :: as) ↔ (endpoint? a).isSome ∧ Accepted as := by
  simp [Accepted]

theorem toList_intercalate_cons_cons (a b : String) (rest : List String) :
    (",".intercalate (a :: b :: rest)).toList = a.toList ++ ',' :: (",".intercalate (b :: rest)).toList := by
  simp [String.intercalate_cons_cons]

/-- The first two addresses may as well be one. -/
theorem intercalate_merge (a b : String) (rest : List String) :
    ",".intercalate (a :: b :: rest) = ",".intercalate ((a ++ "," ++ b) :: rest) := by
  cases rest with
  | nil => simp [String.intercalate_cons_cons]
  | cons c rest => simp [String.intercalate_cons_cons, String.append_assoc]

/-- Any addresses behind one that opens a bracket are one address together with it. -/
theorem endpoint?_intercalate {a : String} {rest : List String} (has : Accepted (a :: rest)) (hopen : Opens a) :
    (endpoint? (",".intercalate (a :: rest))).isSome := by
  induction rest generalizing a with
  | nil =>
    rw [String.intercalate_singleton]
    exact (accepted_cons_iff.1 has).1
  | cons b rest ih =>
    rcases accepted_cons_iff.1 has with ⟨ha, hrest⟩
    rcases accepted_cons_iff.1 hrest with ⟨hb, hrest⟩
    rw [intercalate_merge]
    refine ih (accepted_cons_iff.2 ⟨endpoint?_merge ha hb hopen, hrest⟩) ?_
    rw [String.append_assoc]
    exact (opens_append_iff ha _).2 hopen

/-- The first of plain addresses can be read off, and whether there are others. -/
theorem head_eq_of_plain {a b : String} {as bs : List String} (ha : Plain a) (hb : Plain b)
    (h : ",".intercalate (a :: as) = ",".intercalate (b :: bs)) :
    a = b ∧ ((as = [] ∧ bs = []) ∨ (as ≠ [] ∧ bs ≠ [] ∧ ",".intercalate as = ",".intercalate bs)) := by
  have htext := congrArg String.toList h
  cases as with
  | nil =>
    cases bs with
    | nil => exact ⟨by simpa using h, Or.inl ⟨rfl, rfl⟩⟩
    | cons b' bs =>
      -- one address would go on behind the comma of another
      rw [String.intercalate_singleton, toList_intercalate_cons_cons] at htext
      exact absurd htext (ha.ne_append hb _)
  | cons a' as =>
    cases bs with
    | nil =>
      rw [String.intercalate_singleton, toList_intercalate_cons_cons] at htext
      exact absurd htext.symm (hb.ne_append ha _)
    | cons b' bs =>
      -- the first addresses are one, and so are the texts behind them
      rw [toList_intercalate_cons_cons, toList_intercalate_cons_cons] at htext
      obtain ⟨heq, hrest⟩ := ha.append_inj hb htext
      exact ⟨heq, Or.inr ⟨List.cons_ne_nil a' as, List.cons_ne_nil b' bs, String.toList_inj.1 hrest⟩⟩

/-- Plain addresses can be read off. -/
theorem eq_of_intercalate_eq_of_plain {as bs : List String} (ha : ∀ a ∈ as, Plain a) (hb : ∀ b ∈ bs, Plain b)
    (hane : as ≠ []) (hbne : bs ≠ []) (h : ",".intercalate as = ",".intercalate bs) : as = bs := by
  induction as generalizing bs with
  | nil => exact absurd rfl hane
  | cons a as ih =>
    obtain ⟨b, bs, rfl⟩ := List.exists_cons_of_ne_nil hbne
    rcases List.forall_mem_cons.1 ha with ⟨hpa, ha'⟩
    rcases List.forall_mem_cons.1 hb with ⟨hpb, hb'⟩
    obtain ⟨rfl, ⟨rfl, rfl⟩ | ⟨hane', hbne', hrest⟩⟩ := head_eq_of_plain hpa hpb h
    · rfl
    · rw [ih ha' hb' hane' hbne' hrest]

/-! ## The order of texts around an opening bracket -/

theorem le_append (a b : String) : a ≤ a ++ b := by
  apply le_of_not_gt
  rw [String.lt_iff_toList_lt, String.toList_append]
  exact List.not_lt.2 List.le_append_left

/-- Where a text opens a bracket and another opens none, their first characters decide which is smaller. -/
theorem lt_of_opens {a b c : String} (h : c < a) (ha : ¬ Opens a) (hc : Opens c) (hb : Opens b) : b < a := by
  rw [String.lt_iff_toList_lt] at h ⊢
  obtain ⟨s, hs⟩ := List.head?_eq_some_iff.1 hb
  obtain ⟨t, ht⟩ := List.head?_eq_some_iff.1 hc
  cases hla : a.toList with
  | nil => simp [hla] at h
  | cons x r =>
    have hx : x ≠ '[' := by simpa [Opens, hla] using ha
    rw [hla, ht, List.cons_lt_cons_iff] at h
    rw [hs, List.cons_lt_cons_iff]
    rcases h with hlt | ⟨heq, _⟩
    · exact Or.inl hlt
    · exact absurd heq.symm hx

/-- What comes before a text that opens a bracket, and opens none, comes before all texts that open one. -/
theorem le_of_not_opens {a b c : String} (h : a ≤ b) (ha : ¬ Opens a) (hb : Opens b) (hc : Opens c) : a ≤ c := by
  apply le_of_not_gt
  intro hlt
  exact not_lt_of_ge h (lt_of_opens hlt ha hc hb)

/-- What comes behind a text that opens a bracket, and opens none, comes behind all texts that open one. -/
theorem le_of_opens {a b c : String} (h : a ≤ b) (ha : Opens a) (hb : ¬ Opens b) (hc : Opens c) : c ≤ b := by
  have hne : a ≠ b := fun heq => hb (heq ▸ ha)
  exact le_of_lt (lt_of_opens (lt_of_le_of_ne h hne) hb ha hc)

theorem le_intercalate (a : String) (rest : List String) : a ≤ ",".intercalate (a :: rest) := by
  cases rest with
  | nil => simp
  | cons b rest =>
    rw [String.intercalate_cons_cons, String.append_assoc]
    exact le_append a _

/-! ## Addresses that no others are mistaken for -/

/-- The text is two ascending addresses with a comma between them. -/
def Cuttable (a : String) : Prop :=
  ∃ b c, a = b ++ "," ++ c ∧ (endpoint? b).isSome ∧ (endpoint? c).isSome ∧ b ≤ c

/-- No address but the last opens a bracket, and the last is not two addresses. -/
def Unmistakable : List String → Prop
  | [] => True
  | [a] => ¬ Cuttable a
  | a :: b :: rest => ¬ Opens a ∧ Unmistakable (b :: rest)

theorem opens_intercalate_iff {a : String} {rest : List String} (has : Accepted (a :: rest)) :
    Opens (",".intercalate (a :: rest)) ↔ Opens a := by
  cases rest with
  | nil => simp
  | cons b rest =>
    rw [String.intercalate_cons_cons, String.append_assoc]
    exact opens_append_iff (accepted_cons_iff.1 has).1 _

/-- Two addresses or more, of which the first opens a bracket, can also be cut in two. -/
theorem cuttable_intercalate {a b : String} {rest : List String} (has : Accepted (a :: b :: rest))
    (hasc : (a :: b :: rest).Pairwise (· ≤ ·)) (ha : Opens a) : Cuttable (",".intercalate (a :: b :: rest)) := by
  rcases accepted_cons_iff.1 has with ⟨hea, hrest⟩
  rcases List.pairwise_cons.1 hasc with ⟨hfirst, htail⟩
  have hab : a ≤ b := hfirst b List.mem_cons_self
  by_cases hb : Opens b
  · -- the second address swallows all behind it
    refine ⟨a, ",".intercalate (b :: rest), String.intercalate_cons_cons, hea, endpoint?_intercalate hrest hb, ?_⟩
    exact le_trans hab (le_intercalate b rest)
  · -- the first address swallows all but the last, which opens no bracket
    obtain ⟨init, last, hinit⟩ : ∃ init last, b :: rest = init ++ [last] :=
      ⟨_, _, (List.dropLast_append_getLast (List.cons_ne_nil b rest)).symm⟩
    have hmem : last ∈ b :: rest := by simp [hinit]
    have hacc : Accepted (a :: init) := by
      intro x hx
      apply has x
      rw [hinit]
      simp only [List.mem_cons, List.mem_append] at hx ⊢
      rcases hx with hx | hx
      · exact Or.inl hx
      · exact Or.inr (Or.inl hx)
    have hlast : b ≤ last := by
      rcases List.mem_cons.1 hmem with heq | hm
      · exact le_of_eq heq.symm
      · exact (List.pairwise_cons.1 htail).1 last hm
    have hno : ¬ Opens last := by
      intro hopen
      have hba : b ≤ a := le_of_not_opens hlast hb hopen ha
      exact hb (le_antisymm hab hba ▸ ha)
    refine ⟨",".intercalate (a :: init), last, ?_, endpoint?_intercalate hacc ha, hrest last hmem, ?_⟩
    · rw [hinit, ← List.cons_append, String.intercalate_append_of_ne_nil (List.cons_ne_nil a init) (by simp),
        String.intercalate_singleton]
    · exact le_of_opens (le_trans hab hlast) ha hno ((opens_intercalate_iff hacc).2 ha)

/-- Ascending addresses can be read off where none are mistaken for them. -/
theorem eq_of_intercalate_eq {as bs : List String} (hu : Unmistakable as) (ha : Accepted as) (hb : Accepted bs)
    (hasc : bs.Pairwise (· ≤ ·)) (hane : as ≠ []) (hbne : bs ≠ [])
    (h : ",".intercalate as = ",".intercalate bs) : as = bs := by
  induction as generalizing bs with
  | nil => exact absurd rfl hane
  | cons a as ih =>
    obtain ⟨b, bs, rfl⟩ := List.exists_cons_of_ne_nil hbne
    rcases accepted_cons_iff.1 ha with ⟨hea, ha'⟩
    rcases accepted_cons_iff.1 hb with ⟨heb, hb'⟩
    cases as with
    | nil =>
      cases bs with
      | nil => simpa using h
      | cons c bs =>
        -- the last address would be several
        rw [String.intercalate_singleton] at h
        have hopen : Opens b := opens_of_append heb (String.intercalate_cons_cons ▸ h ▸ hea)
        exact absurd (h ▸ cuttable_intercalate hb hasc hopen) hu
    | cons a' as =>
      rcases hu with ⟨hno, hu⟩
      -- the other first address opens no bracket either, so both end at the same comma
      have hnob : ¬ Opens b := by
        rw [← opens_intercalate_iff hb, ← h, opens_intercalate_iff ha]
        exact hno
      have hpa : Plain a := plain_of_not_opens hea hno
      have hpb : Plain b := plain_of_not_opens heb hnob
      obtain ⟨rfl, ⟨hnil, _⟩ | ⟨hane', hbne', hrest⟩⟩ := head_eq_of_plain hpa hpb h
      · cases hnil
      · rw [ih hu ha' hb' (List.pairwise_cons.1 hasc).2 hane' hbne' hrest]

/-- Ascending addresses that others can be mistaken for have a twin in another number of addresses. Of a text that
opens no bracket and comes before all of the addresses, the twin keeps that. -/
theorem exists_twin {as : List String} (hne : as ≠ []) (ha : Accepted as) (hasc : as.Pairwise (· ≤ ·))
    (hu : ¬ Unmistakable as) :
    ∃ bs, bs ≠ [] ∧ Accepted bs ∧ bs.Pairwise (· ≤ ·) ∧ ",".intercalate bs = ",".intercalate as ∧
      bs.length ≠ as.length ∧ ∀ l, ¬ Opens l → (∀ a ∈ as, l ≤ a) → ∀ b ∈ bs, l ≤ b := by
  -- the last part puts an address in front of the twin of those behind it
  induction as with
  | nil => exact absurd rfl hne
  | cons a as ih =>
    rcases accepted_cons_iff.1 ha with ⟨hea, ha'⟩
    rcases List.pairwise_cons.1 hasc with ⟨hfirst, htail⟩
    cases as with
    | nil =>
      -- the last address is cut in two
      obtain ⟨b, c, rfl, hb, hc, hbc⟩ := Classical.not_not.1 hu
      have hopen : Opens b := opens_of_append hb hea
      have hopen' : Opens (b ++ "," ++ c) := by
        rw [String.append_assoc]
        exact (opens_append_iff hb _).2 hopen
      refine ⟨[b, c], by simp, ?_, by simpa using hbc, by simp [String.intercalate_cons_cons], by simp, ?_⟩
      · simp [Accepted, hb, hc]
      · intro l hl hlow
        have hlb : l ≤ b := le_of_not_opens (hlow _ List.mem_cons_self) hl hopen' hopen
        simpa using ⟨hlb, le_trans hlb hbc⟩
    | cons a' as =>
      by_cases hopen : Opens a
      · -- all addresses are taken for one
        refine ⟨[",".intercalate (a :: a' :: as)], by simp, ?_, by simp, by simp, by simp, ?_⟩
        · simpa [Accepted] using endpoint?_intercalate ha hopen
        · intro l _ hlow
          have hla : l ≤ a := hlow a List.mem_cons_self
          simpa using le_trans hla (le_intercalate a (a' :: as))
      · -- the twin of the addresses behind, with this one in front
        obtain ⟨bs, hbne, hb, hbasc, htext, hlen, hlow⟩ :=
          ih (List.cons_ne_nil a' as) ha' htail (fun h => hu ⟨hopen, h⟩)
        refine ⟨a :: bs, by simp, accepted_cons_iff.2 ⟨hea, hb⟩,
          List.pairwise_cons.2 ⟨hlow a hopen hfirst, hbasc⟩, ?_, by simpa using hlen, ?_⟩
        · rw [String.intercalate_cons_of_ne_nil hbne, htext, String.intercalate_cons_cons]
        · intro l hl hall x hx
          rcases List.mem_cons.1 hx with rfl | hx
          · exact hall x List.mem_cons_self
          · exact hlow l hl (fun y hy => hall y (List.mem_cons_of_mem a hy)) x hx

end Fingerprint

end Tether
