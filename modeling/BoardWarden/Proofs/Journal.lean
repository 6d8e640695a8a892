import BoardWarden.Journal.Basic

set_option autoImplicit false

namespace BoardWarden

structure Note where
  event : Event
  reading : Reading
  time : Instant

namespace Journal

def enter (j : Journal) (note : Note) : Journal :=
  j.record note.event note.reading note.time

def enterAll (j : Journal) (notes : List Note) : Journal := notes.foldl enter j

def notes (j : Journal) : List Note := j.entries.map fun entry => ⟨entry.event, entry.reading, entry.time⟩

theorem enterAll_append (j : Journal) (notes later : List Note) :
    j.enterAll (notes ++ later) = (j.enterAll notes).enterAll later := List.foldl_append

theorem enterAll_notes (notes : List Note) (j : Journal)
    (room : j.entries.length + notes.length ≤ j.capacity) :
    (j.enterAll notes).notes = j.notes ++ notes := by
  induction notes generalizing j with
  | nil => simp [enterAll]
  | cons note rest ih =>
    have kept : newest j.capacity (j.entries ++ [⟨j.nextId, note.time, note.event, note.reading⟩]) =
        j.entries ++ [⟨j.nextId, note.time, note.event, note.reading⟩] := by
      have fits : (j.entries ++ [(⟨j.nextId, note.time, note.event, note.reading⟩ : Entry)]).length -
          j.capacity = 0 := by
        simp only [List.length_append, List.length_cons, List.length_nil] at room ⊢
        omega
      rw [newest, fits, List.drop_zero]
    have entered : (j.enter note).entries =
        j.entries ++ [⟨j.nextId, note.time, note.event, note.reading⟩] := kept
    have later := ih (j.enter note) (by
      rw [entered]
      simp only [List.length_append, List.length_cons, List.length_nil] at room ⊢
      change _ ≤ j.capacity
      omega)
    change ((j.enter note).enterAll rest).notes = _
    rw [later]
    simp [notes, entered]

theorem enterAll_injective {notes notes' : List Note}
    (same : ∀ j : Journal, j.enterAll notes = j.enterAll notes') : notes = notes' := by
  let j := ofCapacity (notes.length + notes'.length)
  have left : (j.enterAll notes).notes = notes :=
    enterAll_notes notes j (by simp [j, ofCapacity])
  have right : (j.enterAll notes').notes = notes' :=
    enterAll_notes notes' j (by simp [j, ofCapacity])
  rw [← left, ← right, same]

theorem enterAll_length (notes : List Note) (j : Journal) (fits : j.entries.length ≤ j.capacity) :
    (j.enterAll notes).entries.length = min j.capacity (j.entries.length + notes.length) := by
  induction notes generalizing j with
  | nil => exact (Nat.min_eq_right fits).symm
  | cons note rest ih =>
    have first : (j.enter note).entries.length = min j.capacity (j.entries.length + 1) := by
      simp only [enter, record, newest, List.length_drop, List.length_append, List.length_singleton]
      omega
    have later := ih (j.enter note) (by rw [first]; exact Nat.min_le_left _ _)
    change ((j.enter note).enterAll rest).entries.length = _
    rw [later, first, List.length_cons]
    change min j.capacity _ = _
    omega

theorem enterAll_cancel {notes notes' : List Note} (j : Journal)
    (room : j.entries.length + notes.length < j.capacity)
    (same : j.enterAll notes = j.enterAll notes') : notes = notes' := by
  have fits : j.entries.length ≤ j.capacity := by omega
  have few := j.enterAll_length notes' fits
  rw [← same, j.enterAll_length notes fits] at few
  have left := enterAll_notes notes j (by omega)
  have right := enterAll_notes notes' j (by omega)
  rw [same, right] at left
  exact (List.append_cancel_left left).symm

section Numbers

def numbered : Nat → List Note → List Entry
  | _, [] => []
  | first, note :: rest => ⟨first, note.time, note.event, note.reading⟩ :: numbered (first + 1) rest

@[simp] theorem numbered_length (first : Nat) (notes : List Note) :
    (numbered first notes).length = notes.length := by
  induction notes generalizing first with
  | nil => rfl
  | cons note rest ih => exact congrArg Nat.succ (ih (first + 1))

theorem numbered_append (first : Nat) (notes later : List Note) :
    numbered first (notes ++ later) = numbered first notes ++ numbered (first + notes.length) later := by
  induction notes generalizing first with
  | nil => rfl
  | cons note rest ih =>
    simp only [List.cons_append, numbered, ih, List.length_cons, Nat.add_assoc, Nat.add_comm 1]

theorem id_of_mem_numbered {first : Nat} {notes : List Note} {entry : Entry}
    (listed : entry ∈ numbered first notes) : first ≤ entry.id ∧ entry.id < first + notes.length := by
  induction notes generalizing first with
  | nil => cases listed
  | cons note rest ih =>
    rcases List.mem_cons.1 listed with rfl | later
    · simp
    · obtain ⟨low, high⟩ := ih later
      rw [List.length_cons]
      omega

theorem numbered_rises (first : Nat) (notes : List Note) :
    (numbered first notes).Pairwise (·.id < ·.id) := by
  induction notes generalizing first with
  | nil => exact .nil
  | cons note rest ih => exact .cons (fun entry later => (id_of_mem_numbered later).1) (ih (first + 1))

theorem newest_concat (capacity : Nat) (entries : List Entry) (entry : Entry) :
    newest capacity (newest capacity entries ++ [entry]) = newest capacity (entries ++ [entry]) := by
  have kept : newest capacity entries ++ [entry] =
      (entries ++ [entry]).drop (entries.length - capacity) :=
    (List.drop_append_of_le_length (Nat.sub_le _ _)).symm
  have dropped : entries.length - capacity +
      (entries.length + 1 - (entries.length - capacity) - capacity) = entries.length + 1 - capacity := by
    omega
  rw [kept]
  simp only [newest, List.drop_drop, List.length_drop, List.length_append, List.length_singleton, dropped]

/-- Which of the entries since a number a journal still holds does not depend on those before. -/
theorem filter_newest (capacity : Nat) (old notes : List Note) :
    (newest capacity (numbered 0 (old ++ notes))).filter (fun entry => decide (old.length ≤ entry.id)) =
      newest capacity (numbered old.length notes) := by
  have before : ∀ count, ((numbered 0 old).drop count).filter
      (fun entry => decide (old.length ≤ entry.id)) = [] := fun count =>
    List.filter_eq_nil_iff.2 fun entry kept => by
      have bound := (id_of_mem_numbered (List.mem_of_mem_drop kept)).2
      rw [Nat.zero_add] at bound
      simpa using bound
  have since : ∀ count, ((numbered old.length notes).drop count).filter
      (fun entry => decide (old.length ≤ entry.id)) = (numbered old.length notes).drop count :=
    fun count => List.filter_eq_self.2 fun entry kept =>
      decide_eq_true (id_of_mem_numbered (List.mem_of_mem_drop kept)).1
  have dropped : old.length + notes.length - capacity - old.length = notes.length - capacity := by omega
  simp only [newest, numbered_append, List.drop_append, List.filter_append, before, since, Nat.zero_add,
    List.length_append, numbered_length, dropped, List.nil_append]

theorem next_newest {capacity : Nat} (some_room : 0 < capacity) (first : Nat) (notes : List Note) :
    ((newest capacity (numbered first notes)).getLast?.map (·.id + 1)).getD first =
      first + notes.length := by
  rcases List.eq_nil_or_concat notes with rfl | ⟨most, note, rfl⟩
  · simp [newest, numbered]
  · have kept : ¬ (numbered first (most ++ [note])).length ≤
        (numbered first (most ++ [note])).length - capacity := by
      rw [numbered_length, List.length_append, List.length_singleton]
      omega
    rw [List.concat_eq_append, newest, List.getLast?_drop, if_neg kept]
    simp [numbered_append, numbered, Nat.add_assoc]

def written (capacity : Nat) (notes : List Note) : Journal :=
  ⟨capacity, newest capacity (numbered 0 notes), notes.length⟩

theorem enterAll_written (capacity : Nat) (old notes : List Note)
    (few : (old ++ notes).length < idLimit) :
    (written capacity old).enterAll notes = written capacity (old ++ notes) := by
  induction notes generalizing old with
  | nil => rw [List.append_nil]; rfl
  | cons note rest ih =>
    rw [List.append_cons] at few ⊢
    rw [← ih (old ++ [note]) few]
    have fits : (old.length + 1) % idLimit = (old ++ [note]).length := by
      simp only [List.length_append, List.length_singleton] at few ⊢
      exact Nat.mod_eq_of_lt (by omega)
    have entered : (written capacity old).enter note = written capacity (old ++ [note]) := by
      simp only [enter, record, written, newest_concat, numbered_append, numbered, fits, Nat.zero_add]
    rw [← entered]
    rfl

end Numbers

end Journal

end BoardWarden
