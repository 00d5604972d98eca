import EmbeddedTests.Proofs.CombinedResults

/-!
# Sums of results

A result is its counters and its lists of files, and adding two results adds up each of these by
itself. So results form a monoid, combining is its sum, and counting an outcome is adding the result
of that outcome alone.
-/
namespace EmbeddedTests.RunResult

theorem eq_of_parts {a b : RunResult} (counters : ∀ counter ∈ allCounters, counter a = counter b)
    (lists : ∀ list ∈ fileLists, list a = list b) : a = b := by
  simp only [allCounters, softCounters, List.forall_mem_cons] at counters
  simp only [fileLists, List.forall_mem_cons] at lists
  obtain ⟨tests, errors, successes, xfail, xbug, xskip, xrtskip, xregression, -⟩ := counters
  obtain ⟨processed, tested, untested, failed, -⟩ := lists
  cases a
  cases b
  simp_all

theorem add_assoc (a b c : RunResult) : a + b + c = a + (b + c) := by
  apply eq_of_parts
  · intro counter counted
    simp only [counter_add counted]
    omega
  · intro list listed
    simp only [file_list_add listed, List.append_assoc]

theorem empty_add (a : RunResult) : {} + a = a := by
  apply eq_of_parts
  · intro counter counted
    rw [counter_add counted, counter_of_processed counted [], Int.zero_add]
  · intro list listed
    rw [file_list_add listed, file_list_empty listed, List.nil_append]

theorem add_empty (a : RunResult) : a + {} = a := by
  apply eq_of_parts
  · intro counter counted
    rw [counter_add counted, counter_of_processed counted [], Int.add_zero]
  · intro list listed
    rw [file_list_add listed, file_list_empty listed, List.append_nil]

instance : Zero RunResult := ⟨{}⟩

instance : AddMonoid RunResult where
  add_assoc := add_assoc
  zero_add := empty_add
  add_zero := add_empty
  nsmul := nsmulRec

theorem combine_eq_sum (results : List RunResult) : combine results = results.sum :=
  List.sum_eq_foldl.symm

theorem combine_append (first later : List RunResult) :
    combine (first ++ later) = combine first + combine later := by
  simp only [combine_eq_sum, List.sum_append]

theorem combine_perm {quantity : RunResult → Int} (empty : quantity {} = 0)
    (adds : ∀ a b : RunResult, quantity (a + b) = quantity a + quantity b)
    {results others : List RunResult} (order : results.Perm others) :
    quantity (combine results) = quantity (combine others) := by
  rw [additive_combine empty adds, additive_combine empty adds]
  exact (order.map quantity).sum_eq

theorem counters_combine_perm {results others : List RunResult} (order : results.Perm others) :
    (combine results).counters = (combine others).counters := by
  have same : ∀ counter ∈ allCounters, counter (combine results) = counter (combine others) :=
    fun _ counted => combine_perm (counter_of_processed counted []) (counter_add counted) order
  simp only [allCounters, softCounters, List.forall_mem_cons] at same
  obtain ⟨tests, errors, successes, xfail, xbug, xskip, xrtskip, xregression, -⟩ := same
  simp only [counters, tests, errors, successes, xfail, xbug, xskip, xrtskip, xregression]

theorem tally_eq_add (r : RunResult) (o : Outcome) : r.tally o = r + tally {} o := by
  apply eq_of_parts
  · intro counter counted
    rw [counter_add counted]
    simp only [allCounters, softCounters, List.mem_cons, List.not_mem_nil, or_false] at counted
    rcases counted with rfl | rfl | rfl | rfl | rfl | rfl | rfl | rfl <;> cases o <;> simp [tally]
  · intro list listed
    rw [file_list_add listed]
    have kept : list (r.tally o) = list r ∧ list (tally {} o) = [] := by
      simp only [fileLists, List.mem_cons, List.not_mem_nil, or_false] at listed
      rcases listed with rfl | rfl | rfl | rfl <;> cases o <;> exact ⟨rfl, rfl⟩
    rw [kept.1, kept.2, List.append_nil]

theorem tally_all_eq_add (r : RunResult) (outcomes : List Outcome) :
    r.tallyAll outcomes = r + tallyAll {} outcomes := by
  induction outcomes generalizing r with
  | nil => exact (add_empty r).symm
  | cons o rest ih =>
    calc (r.tally o).tallyAll rest
        = r + tally {} o + tallyAll {} rest := by rw [ih, tally_eq_add]
      _ = r + (tally {} o + tallyAll {} rest) := add_assoc _ _ _
      _ = r + (tally {} o).tallyAll rest := by rw [ih (tally {} o)]

theorem tally_all_append (r : RunResult) (first later : List Outcome) :
    r.tallyAll (first ++ later) = (r.tallyAll first).tallyAll later :=
  List.foldl_append

/-- Results form a monoid, in which combining adds up lists of results one after another. Whatever
their order, results have the same counters and failures together, and the outcomes of two runs are
counted one after another or apart with the same result. -/
theorem results_add_up :
    (∀ a b c : RunResult, a + b + c = a + (b + c)) ∧
    (∀ a : RunResult, {} + a = a ∧ a + {} = a) ∧
    (∀ first later, combine (first ++ later) = combine first + combine later) ∧
    (∀ results others : List RunResult, results.Perm others →
      (combine results).counters = (combine others).counters ∧
      (combine results).reallyFailed = (combine others).reallyFailed ∧
      (combine results).hardFailures = (combine others).hardFailures) ∧
    ∀ s t, tallyAll {} (s ++ t) = tallyAll {} s + tallyAll {} t := by
  refine ⟨add_assoc, fun a => ⟨empty_add a, add_empty a⟩, combine_append, ?_, ?_⟩
  · intro results others order
    exact ⟨counters_combine_perm order, combine_perm rfl really_failed_add order,
      combine_perm rfl hard_failures_add order⟩
  · intro s t
    rw [tally_all_append, tally_all_eq_add]

end EmbeddedTests.RunResult
