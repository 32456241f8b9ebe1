import NdnMps.Data.Policy
import Mathlib.Order.Bounds.Basic

/-! Greedy repair of a threshold policy: least candidates for unmet quotas, one after the other. -/

variable {α : Type*} [LinearOrder α]

/-- The least candidate that a quota accepts and a set lacks. -/
def Quota.NextParty (candidates : SortedSet α) (quota : Quota α) (set : SortedSet α)
    (party : α) : Prop :=
  IsLeast {a | (a ∈ candidates ∧ quota.accepts a = true) ∧ a ∉ set} party

/-- There is at most one next party. -/
theorem Quota.NextParty.unique {candidates : SortedSet α} {quota : Quota α} {set : SortedSet α}
    {first second : α} (left : quota.NextParty candidates set first)
    (right : quota.NextParty candidates set second) : first = second :=
  IsLeast.unique left right

/-- No candidate that a quota accepts is missing from a set. -/
def Quota.Exhausted (candidates : SortedSet α) (quota : Quota α) (set : SortedSet α) : Prop :=
  ∀ a ∈ candidates, quota.accepts a = true → a ∈ set

/-- A quota that is not exhausted has a next party. -/
theorem Quota.exists_nextParty {candidates : SortedSet α} {quota : Quota α} {set : SortedSet α}
    (left : ¬ quota.Exhausted candidates set) : ∃ party, quota.NextParty candidates set party := by
  -- The first candidate that is accepted and not in the set is the least one.
  cases found : candidates.toList.find? fun a => quota.accepts a && decide (a ∉ set) with
  | none =>
    refine absurd (fun a member accepted => ?_) left
    have refused := List.find?_eq_none.mp found a member
    simpa [accepted] using refused
  | some party =>
    have least := SortedSet.find?_isLeast found
    simp only [Bool.and_eq_true, decide_eq_true_eq, ← and_assoc] at least
    exact ⟨party, least⟩

/-- A quota that takes nobody: it is met, or no further candidate is left. -/
def Quota.Idle (candidates : SortedSet α) (quota : Quota α) (set : SortedSet α) : Prop :=
  quota.times ≤ quota.count set.toList ∨ quota.Exhausted candidates set

/-- Different candidates count no more towards an exhausted quota than the set does. -/
theorem Quota.Exhausted.count_le {candidates : SortedSet α} {quota : Quota α} {set : SortedSet α}
    (exhausted : quota.Exhausted candidates set) {parties : List α} (distinct : parties.Nodup)
    (inside : ∀ a ∈ parties, a ∈ candidates) :
    quota.count parties ≤ quota.count set.toList := by
  -- The parties that count are accepted candidates, so all of them are in the set.
  have counted : quota.count parties = (parties.filter quota.accepts).length :=
    List.countP_eq_length_filter
  rw [counted]
  refine quota.length_le_count (distinct.filter _) ?_ ?_
  · exact fun a member => (List.mem_filter.mp member).2
  · intro a member
    obtain ⟨listed, accepted⟩ := List.mem_filter.mp member
    exact exhausted a (inside a listed) accepted

/-- Every unmet quota of a list takes the next party in turn, each adding its worth to the gain. -/
inductive Refill (policy : Policy α) (candidates : SortedSet α) :
    List (Quota α) → SortedSet α → SortedSet α → Nat → Prop where
  | done (set : SortedSet α) : Refill policy candidates [] set set 0
  | met {quota : Quota α} {rest : List (Quota α)} {set after : SortedSet α} {gain : Nat}
      (reached : quota.times ≤ quota.count set.toList)
      (others : Refill policy candidates rest set after gain) :
      Refill policy candidates (quota :: rest) set after gain
  | filled {quota : Quota α} {rest : List (Quota α)} {set after : SortedSet α} {gain : Nat}
      {party : α} (short : quota.count set.toList < quota.times)
      (next : quota.NextParty candidates set party)
      (others : Refill policy candidates rest (set.insert party) after gain) :
      Refill policy candidates (quota :: rest) set after
        (policy.worth set.toList party + gain)

/-- The first unmet quota with a candidate takes one party, and the search ends there. -/
inductive TopUp (policy : Policy α) (candidates : SortedSet α) :
    List (Quota α) → SortedSet α → SortedSet α → Nat → Prop where
  | done (set : SortedSet α) : TopUp policy candidates [] set set 0
  | passed {quota : Quota α} {rest : List (Quota α)} {set after : SortedSet α} {gain : Nat}
      (idle : quota.times ≤ quota.count set.toList ∨ quota.Exhausted candidates set)
      (others : TopUp policy candidates rest set after gain) :
      TopUp policy candidates (quota :: rest) set after gain
  | added {quota : Quota α} {rest : List (Quota α)} {set : SortedSet α} {party : α}
      (short : quota.count set.toList < quota.times)
      (next : quota.NextParty candidates set party) :
      TopUp policy candidates (quota :: rest) set (set.insert party)
        (policy.worth set.toList party)

variable {policy : Policy α} {candidates : SortedSet α}

/-- Inserting a new party raises the pooled total by its worth. -/
theorem Policy.optionalTotal_insert {set : SortedSet α} {party : α} (fresh : party ∉ set) :
    policy.optionalTotal (set.insert party).toList =
      policy.optionalTotal set.toList + policy.worth set.toList party := by
  rw [policy.optionalTotal_perm (SortedSet.insert_perm fresh), policy.optionalTotal_cons]

/-- A party taken for a quota raises that quota's count by one. -/
theorem Quota.count_insert_next {quota : Quota α} {set : SortedSet α} {party : α}
    (next : quota.NextParty candidates set party) :
    quota.count (set.insert party).toList = quota.count set.toList + 1 := by
  -- The party is accepted and was not in the set.
  obtain ⟨⟨⟨-, accepted⟩, fresh⟩, -⟩ := next
  rw [quota.count_perm (SortedSet.insert_perm fresh), quota.count_cons, if_pos accepted]

/-- The set before an insertion embeds in the set after it. -/
theorem SortedSet.subperm_insert (set : SortedSet α) (party : α) :
    set.toList.Subperm (set.insert party).toList :=
  set.nodup.subperm fun a member => by
    rw [SortedSet.mem_toList] at member ⊢
    simp [member]

namespace Refill

variable {quotas : List (Quota α)} {before after : SortedSet α} {gain : Nat}

/-- Refilling only adds parties. -/
theorem subperm (refill : Refill policy candidates quotas before after gain) :
    before.toList.Subperm after.toList := by
  -- Induction on the refill, which inserts or leaves the set alone.
  induction refill with
  | done set => exact List.Subperm.refl _
  | met _ _ ih => exact ih
  | filled _ _ _ ih => exact (SortedSet.subperm_insert _ _).trans ih

/-- Whoever is there afterwards was there before, or is a candidate. -/
theorem mem_or_candidate (refill : Refill policy candidates quotas before after gain) {a : α}
    (member : a ∈ after) : a ∈ before ∨ a ∈ candidates := by
  induction refill with
  | done set => exact .inl member
  | met _ _ ih => exact ih member
  | filled _ next _ ih =>
    -- The only party inserted in a step is the quota's next one.
    rcases ih member with earlier | candidate
    · rcases SortedSet.mem_insert.mp earlier with same | earlier
      · exact .inr (same ▸ next.1.1.1)
      · exact .inl earlier
    · exact .inr candidate

/-- Parties that no optional quota accepts gain nothing. -/
theorem gain_eq_zero (refill : Refill policy candidates quotas before after gain)
    (apart : ∀ quota ∈ quotas, ∀ a ∈ candidates, quota.accepts a = true →
      policy.optional.countP (fun other => other.accepts a) = 0) : gain = 0 := by
  induction refill with
  | done set => rfl
  | met _ _ ih => exact ih fun quota member => apart quota (List.mem_cons_of_mem _ member)
  | @filled quota rest set after gain party short next others ih =>
    have worthless : policy.worth set.toList party ≤ 0 :=
      (List.countP_mono_left fun other _ counts => (Bool.and_eq_true_iff.mp counts).1).trans
        (apart quota List.mem_cons_self party next.1.1.1 next.1.1.2).le
    have rest := ih fun quota member => apart quota (List.mem_cons_of_mem _ member)
    omega

/-- Where every quota is met, nobody is taken. -/
theorem eq_of_met (refill : Refill policy candidates quotas before after gain)
    (met : ∀ quota ∈ quotas, quota.times ≤ quota.count before.toList) : after = before := by
  induction refill with
  | done set => rfl
  | met _ _ ih => exact ih fun quota member => met quota (List.mem_cons_of_mem _ member)
  | filled short _ _ _ => exact absurd (met _ List.mem_cons_self) (Nat.not_le.mpr short)

/-- The gain is exactly what the pooled total rises by. -/
theorem optionalTotal_eq (refill : Refill policy candidates quotas before after gain) :
    policy.optionalTotal after.toList = policy.optionalTotal before.toList + gain := by
  -- Each party taken is new, so it raises the total by its worth.
  induction refill with
  | done set => rfl
  | met _ _ ih => exact ih
  | filled _ next _ ih =>
    rw [ih, Policy.optionalTotal_insert next.1.2]
    omega

/-- Quotas short of at most one party are met once they have been refilled. -/
theorem reached (refill : Refill policy candidates quotas before after gain)
    (nearly : ∀ quota ∈ quotas, quota.times ≤ quota.count before.toList + 1) :
    ∀ quota ∈ quotas, quota.times ≤ quota.count after.toList := by
  -- Later parties never lower a count, so it is enough to look at a quota's own turn.
  induction refill with
  | done set => simp
  | @met quota rest set after gain reached others ih =>
    intro other member
    rcases List.mem_cons.mp member with same | member
    · subst same
      exact reached.trans (other.count_mono others.subperm)
    · exact ih (fun other member => nearly other (by simp [member])) other member
  | @filled quota rest set after gain party short next others ih =>
    intro other member
    rcases List.mem_cons.mp member with same | member
    · subst same
      have head := nearly other (by simp)
      have raised := other.count_mono others.subperm
      rw [Quota.count_insert_next next] at raised
      omega
    · refine ih (fun other member => ?_) other member
      have tail := nearly other (by simp [member])
      have raised := other.count_mono (SortedSet.subperm_insert set party)
      omega

/-- The quotas and the starting set determine the result and the gain. -/
theorem unique (refill : Refill policy candidates quotas before after gain)
    {other : SortedSet α} {otherGain : Nat}
    (again : Refill policy candidates quotas before other otherGain) :
    other = after ∧ otherGain = gain := by
  -- A quota is either met or not, and its next party is the only least candidate.
  induction refill generalizing other otherGain with
  | done set =>
    cases again
    exact ⟨rfl, rfl⟩
  | met reached _ ih =>
    cases again with
    | met _ others => exact ih others
    | filled short _ _ => exact absurd short (Nat.not_lt.mpr reached)
  | filled short next _ ih =>
    cases again with
    | met reached _ => exact absurd short (Nat.not_lt.mpr reached)
    | filled _ otherNext others =>
      have same := otherNext.unique next
      subst same
      obtain ⟨sameSet, sameGain⟩ := ih others
      exact ⟨sameSet, by rw [sameGain]⟩

/-- Quotas that are short of one party at most are refilled, unless one of them is short and has no
candidate to begin with. -/
theorem exists_iff (policy : Policy α) {candidates : SortedSet α} {quotas : List (Quota α)}
    {before : SortedSet α}
    (nearly : ∀ quota ∈ quotas, quota.times ≤ quota.count before.toList + 1) :
    (∃ after gain, Refill policy candidates quotas before after gain) ↔
      ∀ quota ∈ quotas, quota.Idle candidates before →
        quota.times ≤ quota.count before.toList := by
  constructor
  · rintro ⟨after, gain, refill⟩ quota member (met | exhausted)
    · exact met
    · -- Whoever counts afterwards is a candidate, so it has counted before.
      have counted : quota.count after.toList ≤ quota.count before.toList := by
        rw [Quota.count, List.countP_eq_length_filter]
        refine quota.length_le_count (after.nodup.filter _)
          (fun a accepted => (List.mem_filter.mp accepted).2) fun a accepted => ?_
        obtain ⟨listed, accepts⟩ := List.mem_filter.mp accepted
        exact (refill.mem_or_candidate listed).elim id fun candidate =>
          exhausted a candidate accepts
      exact (refill.reached nearly quota member).trans counted
  · -- Induction on the quotas: each is met, or takes its next party.
    intro fillable
    induction quotas generalizing before with
    | nil => exact ⟨before, 0, .done before⟩
    | cons quota rest ih =>
      by_cases met : quota.times ≤ quota.count before.toList
      · obtain ⟨after, gain, refill⟩ := ih
          (fun other member => nearly other (List.mem_cons_of_mem _ member))
          fun other member => fillable other (List.mem_cons_of_mem _ member)
        exact ⟨after, gain, .met met refill⟩
      · have left : ¬ quota.Exhausted candidates before :=
          fun exhausted => met (fillable quota List.mem_cons_self (.inr exhausted))
        obtain ⟨party, next⟩ := Quota.exists_nextParty left
        have grows := SortedSet.subperm_insert before party
        have nearlyAgain : ∀ other ∈ rest,
            other.times ≤ other.count (before.insert party).toList + 1 := fun other member =>
          (nearly other (List.mem_cons_of_mem _ member)).trans
            (Nat.add_le_add_right (other.count_mono grows) 1)
        -- A later quota that the party has left short does not accept it, so it has been exhausted
        -- all along.
        have fillableAgain : ∀ other ∈ rest, other.Idle candidates (before.insert party) →
            other.times ≤ other.count (before.insert party).toList := by
          rintro other member (reached | exhausted)
          · exact reached
          by_contra short
          have room := nearly other (List.mem_cons_of_mem _ member)
          have refused : other.accepts party ≠ true := by
            intro accepts
            have counted := other.count_perm (SortedSet.insert_perm next.1.2)
            rw [other.count_cons, if_pos accepts] at counted
            omega
          have always : other.Exhausted candidates before := by
            intro a candidate accepts
            rcases SortedSet.mem_insert.mp (exhausted a candidate accepts) with same | earlier
            · exact absurd (same ▸ accepts) refused
            · exact earlier
          exact short ((fillable other (List.mem_cons_of_mem _ member) (.inr always)).trans
            (other.count_mono grows))
        obtain ⟨after, gain, refill⟩ := ih nearlyAgain fillableAgain
        exact ⟨after, _, .filled (Nat.lt_of_not_le met) next refill⟩

end Refill

namespace TopUp

variable {quotas : List (Quota α)} {before after : SortedSet α} {gain : Nat}

/-- Topping up only adds a party. -/
theorem subperm (topUp : TopUp policy candidates quotas before after gain) :
    before.toList.Subperm after.toList := by
  -- One rule for each outcome of the loop, and only the last of them changes the set.
  induction topUp with
  | done set => exact List.Subperm.refl _
  | passed _ _ ih => exact ih
  | added _ _ => exact SortedSet.subperm_insert _ _

/-- The gain is exactly what the pooled total rises by. -/
theorem optionalTotal_eq (topUp : TopUp policy candidates quotas before after gain) :
    policy.optionalTotal after.toList = policy.optionalTotal before.toList + gain := by
  -- Only the step that adds a party gains anything.
  induction topUp with
  | done set => rfl
  | passed _ _ ih => exact ih
  | added _ next => exact Policy.optionalTotal_insert next.1.2

/-- Nothing is gained exactly where every quota is idle. -/
theorem gain_eq_zero_iff (topUp : TopUp policy candidates quotas before after gain)
    (among : quotas ⊆ policy.optional) :
    gain = 0 ↔ ∀ quota ∈ quotas, quota.Idle candidates before := by
  induction topUp with
  | done set => simp
  | passed idle _ ih =>
    have rest := ih fun other member => among (List.mem_cons_of_mem _ member)
    simp only [List.forall_mem_cons, rest]
    exact (and_iff_right idle).symm
  | @added quota rest set party short next =>
    -- The party counts for the quota it is taken for.
    have counts : 0 < policy.worth set.toList party :=
      List.countP_pos_iff.mpr ⟨quota, among List.mem_cons_self, by simp [next.1.1.2, short]⟩
    refine iff_of_false (Nat.pos_iff_ne_zero.mp counts) fun idle => ?_
    rcases idle quota List.mem_cons_self with met | exhausted
    · omega
    · exact next.1.2 (exhausted party next.1.1.1 next.1.1.2)

/-- Where every quota is idle, nobody is added. -/
theorem eq_of_idle (topUp : TopUp policy candidates quotas before after gain)
    (idle : ∀ quota ∈ quotas, quota.Idle candidates before) : after = before := by
  induction topUp with
  | done set => rfl
  | passed _ _ ih => exact ih fun quota member => idle quota (List.mem_cons_of_mem _ member)
  | added short next =>
    -- The quota is neither met nor exhausted.
    rcases idle _ List.mem_cons_self with met | exhausted
    · exact absurd met (Nat.not_le.mpr short)
    · exact absurd (exhausted _ next.1.1.1 next.1.1.2) next.1.2

/-- A candidate that one optional quota accepts at most gains one at most. -/
theorem gain_le_one (topUp : TopUp policy candidates quotas before after gain)
    (apart : ∀ a ∈ candidates, policy.optional.countP (fun other => other.accepts a) ≤ 1) :
    gain ≤ 1 := by
  induction topUp with
  | done set => exact Nat.zero_le 1
  | passed _ _ ih => exact ih
  | added _ next =>
    exact (List.countP_mono_left fun other _ counts => (Bool.and_eq_true_iff.mp counts).1).trans
      (apart _ next.1.1.1)

/-- The quotas and the starting set determine the result and the gain. -/
theorem unique (topUp : TopUp policy candidates quotas before after gain)
    {other : SortedSet α} {otherGain : Nat}
    (again : TopUp policy candidates quotas before other otherGain) :
    other = after ∧ otherGain = gain := by
  -- A quota that is idle cannot add a party, and an added party is the only least candidate.
  have conflict : ∀ {quota : Quota α} {set : SortedSet α} {party : α},
      (quota.times ≤ quota.count set.toList ∨ quota.Exhausted candidates set) →
      quota.count set.toList < quota.times → quota.NextParty candidates set party → False := by
    intro quota set party idle short next
    rcases idle with reached | exhausted
    · omega
    · exact next.1.2 (exhausted party next.1.1.1 next.1.1.2)
  induction topUp generalizing other otherGain with
  | done set =>
    cases again
    exact ⟨rfl, rfl⟩
  | passed idle _ ih =>
    cases again with
    | passed _ others => exact ih others
    | added short next => exact (conflict idle short next).elim
  | added short next =>
    cases again with
    | passed idle _ => exact (conflict idle short next).elim
    | added _ otherNext =>
      have same := otherNext.unique next
      subst same
      exact ⟨rfl, rfl⟩

end TopUp
