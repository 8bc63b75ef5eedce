import QueryFilters.Proofs.Calendar.Succession
import QueryFilters.Proofs.Filter.Decoding
import QueryFilters.Proofs.Filter.Range

/-!
# Whole days

A filter of days is a range from the start of a day to the start of the next one, the latter left
out; on the last day of the calendar it has no upper bound (`Compile.date_of_day?`). It matches the
points in time on that day and nothing else (`BoundFilter.says_compile_of_day?`). What its own codec
decodes always has a next day, so it compiles to both bounds (`BoundFilter.entries_of_decode`).
-/

namespace QueryFilters

namespace Value

/-- The day of a value: a day itself, or that of a point in time. -/
def day? : Value → Option Date
  | date d => some d
  | dateTime dt => some dt.date
  | _ => none

/-- Only points in time compare with a point in time. -/
theorem compare?_dateTime_eq_some_iff {value : Value} {bound : DateTime} {order : Ordering} :
    value.compare? (.dateTime bound) = some order ↔
      ∃ dt, value = .dateTime dt ∧ compare dt bound = order := by
  cases value <;> simp [compare?, type, numberRank?, order?]

end Value

namespace Evaluation

/-- Only a point in time meets a bound that is one. -/
theorem meets_dateTime_iff {actual : Option Value} {l : Lookup} {bound : DateTime} :
    Meets actual l (.dateTime bound) ↔
      ∃ dt, actual = some (.dateTime dt) ∧ l.Admits (compare dt bound) := by
  constructor
  · rintro ⟨value, hvalue, order, horder, hadmits⟩
    obtain ⟨dt, rfl, rfl⟩ := Value.compare?_dateTime_eq_some_iff.1 horder
    exact ⟨dt, hvalue, hadmits⟩
  · rintro ⟨dt, hactual, hadmits⟩
    exact ⟨.dateTime dt, hactual, _, Value.compare?_dateTime_eq_some_iff.2 ⟨dt, rfl, rfl⟩, hadmits⟩

/-- An attribute lies between the start of a day and the start of the next one, where there is one,
exactly if it is a point in time on the day. -/
theorem meets_day_iff {actual : Option Value} {day : Date} :
    (Meets actual .gte (.dateTime (.startOf day)) ∧
        ∀ next ∈ day.succ?, Meets actual .lt (.dateTime (.startOf next))) ↔
      ∃ dt, actual = some (.dateTime dt) ∧ dt.date = day := by
  rw [meets_dateTime_iff]
  cases hnext : day.succ? with
  | none =>
    simp only [Option.not_mem_none, false_implies, implies_true, and_true,
      DateTime.date_eq_iff_of_last hnext, Lookup.Admits]
  | some next =>
    have hfollows := Date.follows_of_succ? hnext
    simp only [Option.mem_some_iff, forall_eq', meets_dateTime_iff,
      DateTime.date_eq_iff_of_follows hfollows, Lookup.Admits]
    constructor
    · rintro ⟨⟨dt, rfl, hstart⟩, dt', hdt', hend⟩
      obtain rfl := Value.dateTime.inj (Option.some.inj hdt')
      exact ⟨dt, rfl, hstart, hend⟩
    · rintro ⟨dt, rfl, hstart, hend⟩
      exact ⟨⟨dt, rfl, hstart⟩, dt, rfl, hend⟩

end Evaluation

namespace Compile

/-- A day compiles to a range of points in time. -/
theorem date_of_day? {target : String} {v : Value} {day : Date} (h : v.day? = some day) :
    date target v = .params (range target .gte .lt (some (.dateTime (.startOf day)))
      (day.succ?.map fun next => .dateTime (.startOf next))) := by
  have hrange : date target v = date target (.date day) := by
    cases v with
    | date d | dateTime dt =>
      obtain rfl := Option.some.inj h
      rfl
    | _ => cases h
  rw [hrange, date]
  cases hnext : day.succ? <;> rfl

end Compile

namespace BoundFilter

variable {b : BoundFilter} (hkind : b.filter.kind = .date)

include hkind

/-- A filter of days compiles a value with a day to a range of points in time. -/
theorem compile_of_day? {v : Value} {day : Date} (hday : v.day? = some day) :
    b.compile (some v) = .params (Compile.range b.target .gte .lt (some (.dateTime (.startOf day)))
      (day.succ?.map fun next => .dateTime (.startOf next))) := by
  have hnull : v ≠ .null := by
    rintro rfl
    cases hday
  rw [b.compile_some hnull, ← Compile.date_of_day? hday]
  simp only [compileValue, hkind]

/-- A filter of days says that the attribute is a point in time on the day. -/
theorem says_compile_of_day? (metric : Metric) (proximity : Proximity) (d : Document)
    (htidy : b.path.Tidy) (hlist : ∀ value ∈ d.get? b.path, value.isList = false) {v : Value}
    {day : Date} (hday : v.day? = some day) :
    Evaluation.Says (Evaluation.fragment metric proximity d (b.compile (some v)))
      (∃ dt, d.get? b.path = some (.dateTime dt) ∧ dt.date = day) := by
  rw [compile_of_day? hkind hday]
  refine (Compile.says_range metric proximity d b.path_ne_nil htidy rfl rfl (by decide) hlist _
    _).congr ?_
  rw [← Evaluation.meets_day_iff]
  simp

omit hkind in
/-- The codec of days decodes to a day that another one follows. -/
theorem exists_follows_of_decode {raw : Raw} {decoded : Value}
    (h : Codec.date.decode raw = .ok decoded) :
    ∃ day next, decoded = .date day ∧ day.succ? = some next := by
  rw [Codec.decode] at h
  obtain ⟨text, htext⟩ := Scalar.exists_read_of_decode h
  obtain ⟨day, hday, rfl⟩ := Option.map_eq_some_iff.1 htext
  obtain ⟨-, hsucc⟩ := Option.filter_eq_some_iff.1 hday
  obtain ⟨next, hnext⟩ := Option.isSome_iff_exists.1 hsucc
  exact ⟨day, next, rfl, hnext⟩

/-- What the codec of days decodes compiles to two bounds: the start of the day, and the start of
the day that follows. -/
theorem entries_of_decode {raw : Raw} {decoded : Value}
    (h : Codec.date.decode raw = .ok decoded) :
    ∃ (day next : Date) (params : Params), decoded = .date day ∧ next.Follows day ∧
      b.compile (some decoded) = .params params ∧
      params.entries.Perm [(Key.ofTarget b.target (some .gte), .dateTime (.startOf day)),
        (Key.ofTarget b.target (some .lt), .dateTime (.startOf next))] := by
  obtain ⟨day, next, rfl, hnext⟩ := exists_follows_of_decode h
  refine ⟨day, next, _, rfl, Date.follows_of_succ? hnext, compile_of_day? hkind rfl, ?_⟩
  rw [hnext]
  exact Compile.entries_range_perm (by decide) _ _

/-- On a document whose attribute is no list, a filter of days gives a verdict for every value with
a day: that the attribute is a point in time on the day. What its own codec decodes compiles to
exactly two entries, the start of the day and the start of the one that follows. -/
theorem says_compile_date (metric : Metric) (proximity : Proximity) (htidy : b.path.Tidy) :
    (∀ (d : Document) (v : Value) (day : Date), v.day? = some day →
      (∀ value ∈ d.get? b.path, value.isList = false) →
        Evaluation.Says (Evaluation.fragment metric proximity d (b.compile (some v)))
          (∃ dt, d.get? b.path = some (.dateTime dt) ∧ dt.date = day)) ∧
    ∀ (raw : Raw) (decoded : Value), Codec.date.decode raw = .ok decoded →
      ∃ (day next : Date) (params : Params), decoded = .date day ∧ next.Follows day ∧
        b.compile (some decoded) = .params params ∧
        params.entries.Perm [(Key.ofTarget b.target (some .gte), .dateTime (.startOf day)),
          (Key.ofTarget b.target (some .lt), .dateTime (.startOf next))] := by
  constructor
  · intro d v day hday hlist
    exact says_compile_of_day? hkind metric proximity d htidy hlist hday
  · intro raw decoded hdecode
    exact entries_of_decode hkind hdecode

omit hkind in
/-- A leap second at the end of the calendar is on its last day, and a leap day has a next one. -/
theorem says_compile_date_at_the_end :
    let b : BoundFilter := ⟨"created", .date, none, none, none, .date, 0⟩
    let last : Date := ⟨262142, 12, 31, by decide, by decide, by decide⟩
    let leap : DateTime :=
      ⟨last, 23, 59, 59, 1500000000, by decide, by decide, by decide, by decide⟩
    let d : Document := ⟨"Doc", .ofList [("created", .dateTime leap)]⟩
    let leapDay : Date := ⟨2024, 2, 29, by decide, by decide, by decide⟩
    b.filter.kind = .date ∧ b.path.Tidy ∧ last.succ? = none ∧
      Evaluation.fragment Metric.greatCircle .empty d (b.compile (some (.date last))) = .ok true ∧
      Evaluation.fragment Metric.greatCircle .empty d (b.compile (some (.date leapDay))) =
        .ok false ∧
      Codec.date.decode (.one "2024-02-29") = .ok (.date leapDay) ∧
      ∃ (next : Date) (params : Params), next.Follows leapDay ∧
        b.compile (some (.date leapDay)) = .params params ∧ params.entries.length = 2 := by
  intro b last leap d leapDay
  have hdotted : Path.ofDotted "created" = ["created"] :=
    Path.ofDotted_eq_singleton (by decide +kernel)
  have hpath : b.path = ["created"] := hdotted
  have htidy : b.path.Tidy := by
    rw [hpath, Path.Tidy]
    decide +kernel
  have hcreated : d.get? b.path = some (.dateTime leap) := by rw [hpath]; rfl
  have hlist : ∀ value ∈ d.get? b.path, value.isList = false := by
    rw [hcreated]
    rintro value ⟨rfl⟩
    rfl
  have hdecode : Codec.date.decode (.one "2024-02-29") = .ok (.date leapDay) := by
    dsimp only [leapDay]
    rfl
  obtain ⟨hverdict, hcompiles⟩ :=
    says_compile_date (b := b) rfl Metric.greatCircle Proximity.empty htidy
  refine ⟨rfl, htidy, by decide, ?_, ?_, hdecode, ?_⟩
  · exact (hverdict d (.date last) last rfl hlist).eq_true_iff.2 ⟨leap, hcreated, rfl⟩
  · refine (hverdict d (.date leapDay) leapDay rfl hlist).eq_false_iff.2 ?_
    rintro ⟨dt, hdt, hday⟩
    obtain rfl := Value.dateTime.inj (Option.some.inj (hcreated.symm.trans hdt))
    have hyear : last.year = leapDay.year := congrArg Date.year hday
    exact absurd hyear (by decide)
  · obtain ⟨day, next, params, hday, hfollows, hparams, hperm⟩ := hcompiles _ _ hdecode
    obtain rfl := Value.date.inj hday
    exact ⟨next, params, hfollows, hparams, hperm.length_eq⟩

end BoundFilter

end QueryFilters
