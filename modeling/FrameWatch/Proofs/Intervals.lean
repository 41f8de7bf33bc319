import FrameWatch.Proofs.Run.Counts
import Mathlib.Algebra.Group.Action.Defs
import Mathlib.Algebra.Order.BigOperators.Group.List
import Mathlib.Data.List.Perm.Basic
import Mathlib.Tactic.Ring

/-!
# Statistics of intervals

Shortest, longest and mean of any list of intervals, in whatever order they were recorded.

1. A duration is a number of seconds and one of nanoseconds, each a word. `Duration.addWords?` and
   `Duration.divWords?` add and divide in the two words, with a carry and with a check of every
   intermediate result; they come to `Duration.add` and `Duration.div`.
2. `Intervals.total_nanos`: the total is the sum, up to the longest duration.
3. `Intervals.exists_shortest`, `Intervals.exists_longest` and `Intervals.mean_exact` say what is
   kept of a list, and `Intervals.ofList_perm` that its order does not matter.
4. `Intervals.interval_law` puts it together for every list whose length is a count.
-/

namespace FrameWatch

/-! ## Sums and quotients in two words -/

namespace Duration

variable {d : Duration} {n : ℕ}

/-- No duration is longer. -/
def longest : Duration := ⟨maxNanos, le_rfl⟩

/-- The sum of the seconds and that of the nanoseconds, with a carry; none if the seconds are no
word. -/
def addWords? (a b : Duration) : Option Duration := do
  let secs ← wordAdd? a.secs b.secs
  if a.subsec + b.subsec < nanosPerSecond then return ofParts secs (a.subsec + b.subsec)
  else return ofParts (← wordAdd? secs 1) (a.subsec + b.subsec - nanosPerSecond)

/-- The quotient of the seconds and that of the nanoseconds, with the seconds that are left over
divided as nanoseconds; none if an intermediate result is no word, or the nanoseconds make a
second. -/
def divWords? (d : Duration) (n : ℕ) : Option Duration := do
  let left ← wordMul? (d.secs % n) nanosPerSecond
  let left ← wordAdd? left (d.subsec % n)
  let subsec := d.subsec / n + left / n
  if subsec < nanosPerSecond then return ofParts (d.secs / n) subsec else none

theorem words_le_iff {secs subsec : ℕ} (hsubsec : subsec < nanosPerSecond) :
    secs * nanosPerSecond + subsec ≤ maxNanos ↔ secs < wordBound := by
  unfold maxNanos wordBound nanosPerSecond at *
  omega

/-- The carry in the nanoseconds is a second, and is lost with the seconds if they are no word. -/
theorem addWords?_eq (a b : Duration) :
    a.addWords? b = if a.nanos + b.nanos ≤ maxNanos then some (a.add b) else none := by
  have ha := a.secs_mul_add_subsec
  have hb := b.secs_mul_add_subsec
  have hra := a.subsec_lt
  have hrb := b.subsec_lt
  have hadd {secs subsec : ℕ} (hsum : secs * nanosPerSecond + subsec = a.nanos + b.nanos) :
      ofParts secs subsec = a.add b := congrArg ofNanos hsum
  unfold addWords? wordAdd?
  by_cases hcarry : a.subsec + b.subsec < nanosPerSecond
  · have hsum : (a.secs + b.secs) * nanosPerSecond + (a.subsec + b.subsec) =
        a.nanos + b.nanos := by
      rw [← ha, ← hb, Nat.add_mul]
      omega
    simp only [if_pos hcarry]
    by_cases hsecs : a.secs + b.secs < wordBound
    · rw [if_pos hsecs, if_pos (by rwa [← hsum, words_le_iff hcarry]), ← hadd hsum]
      rfl
    · rw [if_neg hsecs, if_neg (by rwa [← hsum, words_le_iff hcarry])]
      rfl
  · have hsum : (a.secs + b.secs + 1) * nanosPerSecond +
        (a.subsec + b.subsec - nanosPerSecond) = a.nanos + b.nanos := by
      rw [← ha, ← hb, Nat.add_mul, Nat.add_mul]
      omega
    have hsubsec : a.subsec + b.subsec - nanosPerSecond < nanosPerSecond := by omega
    simp only [if_neg hcarry]
    by_cases hsecs : a.secs + b.secs + 1 < wordBound
    · rw [if_pos (Nat.lt_of_succ_lt hsecs), if_pos (by rwa [← hsum, words_le_iff hsubsec]),
        ← hadd hsum, Option.bind_eq_bind, Option.bind_some, if_pos hsecs]
      rfl
    · rw [if_neg (by rwa [← hsum, words_le_iff hsubsec] : ¬ a.nanos + b.nanos ≤ maxNanos)]
      split
      · rw [Option.bind_eq_bind, Option.bind_some, if_neg hsecs]
        rfl
      · rfl

/-- Sums stop at the longest duration. -/
theorem add_eq_addWords? (a b : Duration) : a.add b = (a.addWords? b).getD longest := by
  rw [addWords?_eq]
  split
  · rfl
  · rename_i hlong
    exact ext_nanos (Nat.min_eq_right (not_le.mp hlong).le)

/-- The seconds that are left over are fewer than `n`, so that as nanoseconds they are a word, and
the `n`-th part of them is less than a second. -/
theorem divWords?_eq (hpos : 0 < n) (hn : n < countBound) : d.divWords? n = some (d.div n) := by
  have hsecs := Nat.div_add_mod d.secs n
  have hsubsec := Nat.div_add_mod d.subsec n
  have hlt := d.subsec_lt
  have hr := Nat.mod_lt d.secs hpos
  have ht := Nat.mod_lt d.subsec hpos
  set q := d.secs / n
  set r := d.secs % n
  set s := d.subsec / n
  set t := d.subsec % n
  have hword : r * nanosPerSecond + t < wordBound := by
    unfold nanosPerSecond wordBound
    unfold countBound at hn
    omega
  have hnanos : d.nanos = n * (q * nanosPerSecond + s) + (r * nanosPerSecond + t) := by
    rw [← d.secs_mul_add_subsec, ← hsecs, ← hsubsec]
    ring
  -- `r < n` seconds are left over, and with them fewer than `n` whole seconds to be divided
  have hleft : s + (r * nanosPerSecond + t) / n < nanosPerSecond := by
    refine Nat.lt_of_mul_lt_mul_left (a := n) ?_
    calc n * (s + (r * nanosPerSecond + t) / n)
        = n * s + n * ((r * nanosPerSecond + t) / n) := Nat.mul_add ..
      _ ≤ n * s + (r * nanosPerSecond + t) := Nat.add_le_add_left (Nat.mul_div_le ..) _
      _ = r * nanosPerSecond + d.subsec := by omega
      _ < (r + 1) * nanosPerSecond := by rw [Nat.add_mul]; omega
      _ ≤ n * nanosPerSecond := Nat.mul_le_mul_right _ hr
  have hdiv : ofParts q (s + (r * nanosPerSecond + t) / n) = d.div n := by
    have hle := (words_le_iff hleft).mpr ((Nat.div_le_self d.secs n).trans_lt d.secs_lt)
    refine ext_nanos ((Nat.min_eq_left hle).trans ?_)
    show _ = d.nanos / n
    rw [hnanos, Nat.mul_add_div hpos, Nat.add_assoc]
  unfold divWords? wordMul? wordAdd?
  rw [if_pos (Nat.lt_of_le_of_lt (Nat.le_add_right ..) hword), Option.bind_eq_bind,
    Option.bind_some, if_pos hword, Option.bind_some, ← hdiv]
  exact if_pos hleft

end Duration

/-! ## What is kept of a list -/

namespace Intervals

variable {ds ds' : List Duration} {d : Duration}

/-- The sum of the intervals, however long. -/
def exactSum (ds : List Duration) : ℕ := (ds.map Duration.nanos).sum

theorem exactSum_concat (ds : List Duration) (d : Duration) :
    exactSum (ds ++ [d]) = exactSum ds + d.nanos := by
  unfold exactSum
  rw [List.map_append, List.sum_append, List.map_singleton, List.sum_singleton]

theorem total_nanos (ds : List Duration) :
    (ofList ds).total.nanos = min (exactSum ds) Duration.maxNanos := by
  induction ds using List.reverseRecOn with
  | nil => rfl
  | append_singleton ds d ih =>
    rw [ofList_concat, exactSum_concat]
    show min ((ofList ds).total.nanos + d.nanos) _ = _
    omega

/-- The total, with every sum made in two words. -/
theorem total_eq_foldl (ds : List Duration) :
    (ofList ds).total = ds.foldl (fun total d => (total.addWords? d).getD .longest) .zero := by
  induction ds using List.reverseRecOn with
  | nil => rfl
  | append_singleton ds d ih =>
    rw [ofList_concat, List.foldl_append, ← ih]
    exact Duration.add_eq_addWords? ..

/-- What is picked from one interval after the other comes before all others, where it does so in
every single choice. -/
theorem exists_picked {kept : Intervals → Option Duration} (pick : Duration → Duration → Duration)
    (r : Duration → Duration → Prop) (hrefl : ∀ d, r d d) (htrans : ∀ a b c, r a b → r b c → r a c)
    (hpick : ∀ a b, pick a b = a ∧ r a b ∨ pick a b = b ∧ r b a) (hempty : kept empty = none)
    (hrecord : ∀ s d, kept (s.record d) = some ((kept s).elim d (pick · d))) (hds : ds ≠ []) :
    ∃ d ∈ ds, kept (ofList ds) = some d ∧ ∀ e ∈ ds, r d e := by
  induction ds using List.reverseRecOn with
  | nil => exact absurd rfl hds
  | append_singleton ds last ih =>
    rw [ofList_concat, hrecord]
    by_cases hfirst : ds = []
    · subst hfirst
      exact ⟨last, List.mem_singleton_self _, by rw [show ofList [] = empty from rfl, hempty]; rfl,
        fun e he => by rw [List.mem_singleton.mp he]; exact hrefl last⟩
    · obtain ⟨d, hd, hkept, hall⟩ := ih hfirst
      rw [hkept]
      refine ⟨pick d last, ?_, rfl, fun e he => ?_⟩
      · rcases hpick d last with ⟨hpicked, -⟩ | ⟨hpicked, -⟩ <;> rw [hpicked] <;> simp [hd]
      · rcases hpick d last with ⟨hpicked, hr⟩ | ⟨hpicked, hr⟩ <;> rw [hpicked]
        · rcases List.mem_append.mp he with he | he
          · exact hall e he
          · rwa [List.mem_singleton.mp he]
        · rcases List.mem_append.mp he with he | he
          · exact htrans _ _ _ hr (hall e he)
          · rw [List.mem_singleton.mp he]
            exact hrefl last

theorem exists_shortest (hds : ds ≠ []) :
    ∃ d ∈ ds, (ofList ds).shortest = some d ∧ ∀ e ∈ ds, d.nanos ≤ e.nanos := by
  refine exists_picked Duration.shorter (fun a b => a.nanos ≤ b.nanos) (fun _ => le_rfl)
    (fun _ _ _ => le_trans) (fun a b => ?_) rfl (fun _ _ => rfl) hds
  unfold Duration.shorter
  split
  · exact .inl ⟨rfl, by assumption⟩
  · exact .inr ⟨rfl, by omega⟩

theorem exists_longest (hds : ds ≠ []) :
    ∃ d ∈ ds, (ofList ds).longest = some d ∧ ∀ e ∈ ds, e.nanos ≤ d.nanos := by
  refine exists_picked Duration.longer (fun a b => b.nanos ≤ a.nanos) (fun _ => le_rfl)
    (fun _ _ _ hab hbc => hbc.trans hab) (fun a b => ?_) rfl (fun _ _ => rfl) hds
  unfold Duration.longer
  split
  · exact .inr ⟨rfl, by assumption⟩
  · exact .inl ⟨rfl, by omega⟩

theorem mean_ofList (hds : ds ≠ []) :
    (ofList ds).mean = some ((ofList ds).total.div ds.length) := by
  unfold mean
  rw [count_ofList, if_pos (List.length_pos_iff.mpr hds)]

/-! ## The order of recording -/

theorem nanos_shorter (a b : Duration) : (a.shorter b).nanos = min a.nanos b.nanos := by
  unfold Duration.shorter
  split <;> omega

theorem nanos_longer (a b : Duration) : (a.longer b).nanos = max a.nanos b.nanos := by
  unfold Duration.longer
  split <;> omega

theorem record_comm (s : Intervals) (a b : Duration) :
    (s.record a).record b = (s.record b).record a := by
  have hshortest : (s.shortest.elim a (·.shorter a)).shorter b =
      (s.shortest.elim b (·.shorter b)).shorter a := by
    refine Duration.ext_nanos ?_
    cases s.shortest <;> simp only [Option.elim, nanos_shorter] <;> omega
  have hlongest : (s.longest.elim a (·.longer a)).longer b =
      (s.longest.elim b (·.longer b)).longer a := by
    refine Duration.ext_nanos ?_
    cases s.longest <;> simp only [Option.elim, nanos_longer] <;> omega
  have htotal : (s.total.add a).add b = (s.total.add b).add a := by
    refine Duration.ext_nanos ?_
    show min (min (s.total.nanos + a.nanos) _ + b.nanos) _ =
      min (min (s.total.nanos + b.nanos) _ + a.nanos) _
    omega
  unfold record
  rw [Intervals.mk.injEq]
  exact ⟨rfl, congrArg some hshortest, congrArg some hlongest, htotal⟩

instance : RightCommutative record := ⟨record_comm⟩

theorem ofList_perm (hperm : ds.Perm ds') : ofList ds = ofList ds' := hperm.foldl_eq _

/-! ## Every list -/

theorem foldlM_record? (s : Intervals) (hfits : s.count + ds.length < countBound) :
    ds.foldlM record? s = some (ds.foldl record s) := by
  induction ds generalizing s with
  | nil => rfl
  | cons d ds ih =>
    rw [List.length_cons] at hfits
    have hrecord : s.record? d = some (s.record d) := by
      unfold record?
      rw [succ?_of_lt (by omega)]
      rfl
    rw [List.foldlM_cons, hrecord]
    refine ih (s.record d) ?_
    show s.count + 1 + ds.length < countBound
    omega

theorem le_exactSum {n : ℕ} (hall : ∀ d ∈ ds, n ≤ d.nanos) : ds.length * n ≤ exactSum ds := by
  have hsum := List.card_nsmul_le_sum (ds.map Duration.nanos) n (by simpa using hall)
  rwa [List.length_map, smul_eq_mul] at hsum

theorem exactSum_le {n : ℕ} (hall : ∀ d ∈ ds, d.nanos ≤ n) : exactSum ds ≤ ds.length * n := by
  have hsum := List.sum_le_card_nsmul (ds.map Duration.nanos) n (by simpa using hall)
  rwa [List.length_map, smul_eq_mul] at hsum

theorem eq_of_mean (hmean : (ofList ds).mean = some d) :
    ds ≠ [] ∧ d = (ofList ds).total.div ds.length := by
  have hds : ds ≠ [] := by
    rintro rfl
    cases hmean
  rw [mean_ofList hds] at hmean
  exact ⟨hds, (Option.some.inj hmean).symm⟩

theorem mean_exact (hsum : exactSum ds ≤ Duration.maxNanos) (hmean : (ofList ds).mean = some d) :
    d.nanos = exactSum ds / ds.length := by
  obtain ⟨-, rfl⟩ := eq_of_mean hmean
  show (ofList ds).total.nanos / _ = _
  rw [total_nanos, Nat.min_eq_left hsum]

/-- What is kept of a list of intervals. -/
structure IntervalLaw (ds : List Duration) : Prop where
  /-- All intervals can be counted. -/
  recorded : ds.foldlM record? empty = some (ofList ds)
  count : (ofList ds).count = ds.length
  nothing : ds = [] →
    (ofList ds).shortest = none ∧ (ofList ds).longest = none ∧ (ofList ds).mean = none
  shortest : ds ≠ [] → ∃ d ∈ ds, (ofList ds).shortest = some d ∧ ∀ e ∈ ds, d.nanos ≤ e.nanos
  longest : ds ≠ [] → ∃ d ∈ ds, (ofList ds).longest = some d ∧ ∀ e ∈ ds, e.nanos ≤ d.nanos
  mean : ds ≠ [] → ∃ d, (ofList ds).mean = some d
  /-- The mean is no longer than the longest interval, even where the sum is no duration. -/
  mean_le : ∀ d l, (ofList ds).mean = some d → (ofList ds).longest = some l → d.nanos ≤ l.nanos
  /-- The mean is exact, rounded down, if the sum is a duration. -/
  exact : exactSum ds ≤ Duration.maxNanos → ∀ d, (ofList ds).mean = some d →
    d.nanos = exactSum ds / ds.length
  /-- The mean is no shorter than the shortest interval, if the sum is a duration. -/
  le_mean : exactSum ds ≤ Duration.maxNanos → ∀ s d, (ofList ds).shortest = some s →
    (ofList ds).mean = some d → s.nanos ≤ d.nanos
  /-- Total and mean are those that come out of sums and a quotient in two words. -/
  total_words : (ofList ds).total =
    ds.foldl (fun total d => (total.addWords? d).getD .longest) .zero
  mean_words : ∀ d, (ofList ds).mean = some d → (ofList ds).total.divWords? ds.length = some d
  /-- The order of recording does not matter. -/
  permuted : ∀ ds', ds.Perm ds' → ofList ds' = ofList ds

/-- **Intervals.** As many intervals as can be counted have a shortest, a longest and a mean, which
are the same in every order. The mean lies between the other two; only where the sum is longer than
any duration, it can be too short. -/
theorem interval_law (ds : List Duration) (h : ds.length < countBound) : IntervalLaw ds where
  recorded := foldlM_record? empty ((Nat.zero_add _).trans_lt h)
  count := count_ofList ds
  nothing hnil := by
    subst hnil
    exact ⟨rfl, rfl, rfl⟩
  shortest := exists_shortest
  longest := exists_longest
  mean hds := ⟨_, mean_ofList hds⟩
  mean_le d l hmean hlongest := by
    obtain ⟨hds, rfl⟩ := eq_of_mean hmean
    obtain ⟨l', -, hlongest', hall⟩ := exists_longest hds
    obtain rfl := Option.some.inj (hlongest.symm.trans hlongest')
    refine Nat.div_le_of_le_mul ?_
    rw [total_nanos]
    exact (Nat.min_le_left ..).trans (exactSum_le hall)
  exact hsum _ := mean_exact hsum
  le_mean hsum s d hshortest hmean := by
    obtain ⟨hds, -⟩ := eq_of_mean hmean
    obtain ⟨s', -, hshortest', hall⟩ := exists_shortest hds
    obtain rfl := Option.some.inj (hshortest.symm.trans hshortest')
    rw [mean_exact hsum hmean, Nat.le_div_iff_mul_le (List.length_pos_iff.mpr hds), Nat.mul_comm]
    exact le_exactSum hall
  total_words := total_eq_foldl ds
  mean_words d hmean := by
    obtain ⟨hds, rfl⟩ := eq_of_mean hmean
    exact Duration.divWords?_eq (List.length_pos_iff.mpr hds) h
  permuted _ hperm := (ofList_perm hperm).symm

/-- The sum of two intervals that is just no duration any more. -/
theorem interval_law_saturated :
    let ds := [Duration.longest, .ofNanos 1]
    ds.length < countBound ∧ IntervalLaw ds ∧ exactSum ds = Duration.maxNanos + 1 ∧
      (ofList ds).mean = some (.ofNanos (Duration.maxNanos / 2)) :=
  ⟨by decide, interval_law _ (by decide), by decide, by decide⟩

/-- Without a sum that is a duration, the mean can be shorter than every interval. -/
example : (ofList [.longest, .longest]).mean = some (.ofNanos (Duration.maxNanos / 2)) := by decide

end Intervals

end FrameWatch
