import QueryFilters.Proofs.Proximity.Table

/-!
# Keys cut and joined again

A key is its path and its lookup: joined again they are the key (`Key.ofTarget_split`), so no two
keys are cut alike (`Key.split_injective`). A table of places keeps only the target of a path and
cuts it again to read a distance. It reads the attribute that an entry asking for a place on that
path has looked at, so a document that satisfies such an entry on the first path of the table has a
distance (`Proximity.exists_distance?_of_entry`).
-/

namespace QueryFilters

namespace Key

/-- Joining the path and the lookup of a key gives the key again. -/
theorem ofTarget_split (key : String) : ofTarget (split key).1.toTarget (split key).2 = key := by
  have hsplit : split key = ((split key).1, (split key).2) := rfl
  obtain ⟨hne, hsegments, -⟩ := split_eq_iff.1 hsplit
  rw [ofTarget_eq_toTarget hne, ← hsegments, Path.toTarget_ofTarget]

/-- No two keys are cut alike. -/
theorem split_injective : Function.Injective split := by
  intro key key' h
  rw [← ofTarget_split key, h, ofTarget_split]

end Key

namespace Proximity

variable {metric : Metric} {p : Proximity} {near : Near} {others : List (String × Near)}

/-- Distances are measured to the attribute that the first target of the table leads to. -/
theorem distance?_eq {target : String} (hfirst : p.paths = (target, near) :: others)
    (d : Document) : p.distance? metric d = near.origin.bind fun origin =>
      ((d.get? (Path.ofTarget target)).bind Value.asPoint?).map (metric origin) := by
  rw [distance?, hfirst]
  dsimp only
  cases near.origin with
  | none => rfl
  | some origin => cases (d.get? (Path.ofTarget target)).bind Value.asPoint? <;> rfl

/-- The table leads its first target to what comes first. -/
theorem get?_first {target : String} (hfirst : p.paths = (target, near) :: others) :
    p.get? target = some near := by
  rw [get?, hfirst, Entries.get?, if_pos rfl]

/-- On the first path of a table, distances are measured to the attribute that entries look at. -/
theorem distance?_of_asks {path : Path} {key : String}
    (hfirst : p.paths = (path.toTarget, near) :: others) (hasks : Key.Asks .origin path key)
    (d : Document) : p.distance? metric d = near.origin.bind fun origin =>
      ((d.get? path).bind Value.asPoint?).map (metric origin) := by
  obtain ⟨-, rfl⟩ := hasks
  rw [distance?_eq hfirst, Key.ofTarget_toTarget_split]

/-- A document that satisfies an entry on the first path of a table has a distance. -/
theorem exists_distance?_of_entry {path : Path} {key : String}
    (hfirst : p.paths = (path.toTarget, near) :: others) (hasks : Key.Asks .origin path key)
    {d : Document} {operand : Value} (h : Evaluation.entry metric p d key operand = .ok true) :
    ∃ distance, p.distance? metric d = some distance := by
  rw [entry_of_asks hasks] at h
  obtain ⟨value, place, origin, hvalue, hplace, horigin, -⟩ :=
    (within_eq_true_iff (get?_first hfirst) _).1 (Except.ok.inj h)
  refine ⟨metric origin place, ?_⟩
  rw [distance?_of_asks hfirst hasks, horigin, hvalue, Option.bind_some, Option.bind_some, hplace,
    Option.map_some]

/-- The first path of a collected table is one on which the fragments ask for a place. -/
theorem exists_asks_of_first {list : List Fragment} {target : String}
    (h : collect list = .ok p) (hfirst : p.paths = (target, near) :: others) :
    ∃ path : Path, path.toTarget = target ∧
      ∃ entry ∈ Fragment.asked list, Key.Asks .origin path entry.1 := by
  have hrecorded : Path.ofTarget target ∈ p.recorded := by
    rw [recorded, hfirst, List.map_cons]
    exact List.mem_cons_self
  exact ⟨_, Path.toTarget_ofTarget target,
    ((records_of_collect h).mem_recorded_iff _).1 hrecorded⟩

end Proximity

/-- Every key has a path and perhaps a lookup, which joined again give the key, and its path joined
and cut again is the path. So no two keys are cut alike, and on the first path of a table an entry
that asks for a place looks at the very attribute to which distances are measured: every document
that satisfies the entry has a distance. The first path of a collected table is always one on which
some entry asks for a place. -/
theorem Key.split_roundtrip :
    (∀ key : String, (split key).1 ≠ [] ∧
      ofTarget (split key).1.toTarget (split key).2 = key ∧
      Path.ofTarget (split key).1.toTarget = (split key).1) ∧
    Function.Injective split ∧
    (∀ (metric : Metric) (p : Proximity) (path : Path) (near : Near) (others : List (String × Near))
      (key : String), p.paths = (path.toTarget, near) :: others → Asks .origin path key →
        ∀ (d : Document) (operand : Value),
          Evaluation.entry metric p d key operand =
            .ok (p.within metric path.toTarget (d.get? path)) ∧
          p.distance? metric d = (near.origin.bind fun origin =>
            ((d.get? path).bind Value.asPoint?).map (metric origin)) ∧
          (Evaluation.entry metric p d key operand = .ok true →
            ∃ distance, p.distance? metric d = some distance)) ∧
    ∀ (list : List Fragment) (p : Proximity) (target : String) (near : Near)
      (others : List (String × Near)), Proximity.collect list = .ok p →
        p.paths = (target, near) :: others → ∃ path : Path, path.toTarget = target ∧
          ∃ entry ∈ Fragment.asked list, Asks .origin path entry.1 := by
  refine ⟨fun key => ?_, split_injective, ?_, fun _ _ _ _ _ => Proximity.exists_asks_of_first⟩
  · exact ⟨split_path_ne_nil key, ofTarget_split key, ofTarget_toTarget_split key⟩
  · intro metric p path near others key hfirst hasks d operand
    exact ⟨Proximity.entry_of_asks hasks metric p d operand,
      Proximity.distance?_of_asks hfirst hasks d, Proximity.exists_distance?_of_entry hfirst hasks⟩

/-- The last segment of a path may be empty, so that its target ends in a double underscore. -/
theorem Key.split_roundtrip_empty_segment :
    let zero : Value := .list [.int 0, .int 0]
    let d : Document := ⟨"Doc", .ofList [("place", .map [("", zero)])]⟩
    let list : List Fragment := [.params (.ofList [("place____near", zero)])]
    ∃ p near others, Proximity.collect list = .ok p ∧ p.paths = ("place__", near) :: others ∧
      split "place____near" = (["place", ""], some .near) ∧
      Path.ofTarget "place__" = ["place", ""] ∧
      (∃ path : Path, path.toTarget = "place__" ∧
        ∃ entry ∈ Fragment.asked list, Asks .origin path entry.1) ∧
      ∀ metric : Metric, ∃ distance, p.distance? metric d = some distance := by
  intro zero d list
  let near : Near := { origin := some ⟨Binary64.ofInt 0, Binary64.ofInt 0⟩ }
  let p : Proximity := ⟨[("place__", near)]⟩
  have hsplit : split "place____near" = (["place", ""], some .near) := by decide +kernel
  have hcollect : Proximity.collect list = .ok p := by
    have hasked : Fragment.asked list = [("place____near", zero)] := rfl
    have hplace : zero.asPoint? = near.origin := rfl
    have htarget : Path.toTarget ["place", ""] = "place__" := by decide +kernel
    rw [Proximity.collect_eq_ok_iff, hasked]
    simp only [Proximity.recordAll, Proximity.record, hsplit, hplace, htarget, near]
    exact ⟨rfl, rfl⟩
  have hasks : Asks .origin ["place", ""] "place____near" := by decide +kernel
  obtain ⟨hkeys, -, hread, hfirst⟩ := split_roundtrip
  have hcut := (hkeys "place____near").2.2
  rw [hsplit] at hcut
  refine ⟨p, near, [], hcollect, rfl, hsplit, hcut, hfirst _ p _ near [] hcollect rfl,
    fun metric => ?_⟩
  obtain ⟨hentry, -, hdistance⟩ := hread metric p _ near [] _ rfl hasks d zero
  -- Without bounds the place alone satisfies the entry.
  exact hdistance hentry

end QueryFilters
