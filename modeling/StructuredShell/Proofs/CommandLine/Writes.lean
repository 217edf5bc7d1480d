import StructuredShell.CommandLine.FileStore

/-!
# What a write leaves

Writing a text to a place ends in one of four ways. The text replaces the file there, or a device
passes it on; or nothing is taken and nothing changes, or a file runs full and is left with a
beginning of the text. In none of them does another file change.
-/

set_option autoImplicit false

namespace StructuredShell.FileStore

/-! ## Replaced files -/

theorem lookup_filter_ne {location other : Location} (different : other ≠ location)
    (files : List (Location × Contents)) :
    (files.filter fun (file, _) => file != location).lookup other = files.lookup other := by
  induction files with
  | nil => rfl
  | cons entry files ih =>
      obtain ⟨file, contents⟩ := entry
      by_cases replaced : file = location
      · subst replaced
        simpa [List.lookup_cons, beq_false_of_ne different] using ih
      · simp [List.lookup_cons, replaced, ih]

theorem file?_put (store : FileStore) (location : Location) (contents : Contents) :
    (store.put location contents).file? location = some contents := by
  simp [put, file?]

theorem file?_put_of_ne (store : FileStore) {location other : Location} (contents : Contents)
    (different : other ≠ location) :
    (store.put location contents).file? other = store.file? other := by
  rw [file?, put, List.lookup_cons, beq_false_of_ne different]
  exact lookup_filter_ne different store.files

/-! ## Ways to end -/

def isDevice (store : FileStore) (location : Location) : Bool :=
  (store.sink? location).any Sink.isDevice

/-- Whether a path names a place that can be opened for writing. -/
def opens (store : FileStore) (path : String) : Bool :=
  match store.target path with
  | .error _ => false
  | .ok location =>
    match store.sink? location with
    | some (.closed _) => false
    | _ => true

/-- What a file holds that did not take all of a text: the first of its bytes. -/
def IsBeginning (contents : Contents) (text : String) : Prop :=
  ∃ kept, contents = .ofBytes kept ∧ kept <+: utf8Bytes text ∧ kept ≠ utf8Bytes text

/-- The ways in which writing a text to a place can end. -/
inductive Writes (store : FileStore) (location : Location) (text : String) : Written → Prop where
  | replaced :
      store.isDevice location = false →
      Writes store location text { result := .ok (), store := store.put location (.text text) }
  | passed :
      store.isDevice location = true →
      Writes store location text {
        result := .ok ()
        store := store
        stdout := if store.sink? location = some .stdout then text else ""
        stderr := if store.sink? location = some .stderr then text else "" }
  | refused {fault : SystemFault} :
      Writes store location text { result := .error fault, store := store }
  | cutOff {fault : SystemFault} {contents : Contents} :
      store.isDevice location = false → IsBeginning contents text →
      Writes store location text { result := .error fault, store := store.put location contents }

theorem writeAt_writes (store : FileStore) (location : Location) (text : String) :
    Writes store location text (store.writeAt location text) := by
  rw [writeAt]
  cases sink : store.sink? location with
  | none => exact .replaced (by simp [isDevice, sink])
  | some sink' =>
      cases sink' with
      | closed fault => exact .refused
      | limited size fault =>
          have isFile : store.isDevice location = false := by simp [isDevice, sink, Sink.isDevice]
          dsimp only
          split
          · exact .replaced isFile
          · rename_i long
            refine .cutOff isFile ⟨_, rfl, List.take_prefix _ _, fun whole => long ?_⟩
            have lengths := congrArg List.length whole
            rw [List.length_take] at lengths
            omega
      | failing fault =>
          have isDevice : store.isDevice location = true := by
            simp [isDevice, sink, Sink.isDevice]
          dsimp only
          split
          · have passed : Writes store location text _ := .passed isDevice
            simpa [sink] using passed
          · exact .refused
      | nowhere | stdout | stderr =>
          have isDevice : store.isDevice location = true := by
            simp [isDevice, sink, Sink.isDevice]
          have passed : Writes store location text _ := .passed isDevice
          simpa [sink] using passed

section

variable {store : FileStore} {location other : Location} {path text : String}

theorem write_of_target (target : store.target path = .ok location) :
    store.write path text = store.writeAt location text := by
  rw [write, target]

theorem Writes.file?_of_ne {written : Written} (writes : Writes store location text written)
    (different : other ≠ location) : written.store.file? other = store.file? other := by
  cases writes with
  | replaced | cutOff => exact store.file?_put_of_ne _ different
  | passed | refused => rfl

/-- Only the file at the place that a path names changes, and only if it can be opened. -/
theorem target_of_write_ne
    (change : (store.write path text).store.file? other ≠ store.file? other) :
    store.target path = .ok other := by
  rw [write] at change
  cases target : store.target path with
  | error fault => simp [target] at change
  | ok location =>
      simp only [target] at change
      by_cases same : other = location
      · rw [same]
      · exact absurd ((store.writeAt_writes location text).file?_of_ne same) change

/-- A path that cannot be opened is refused, and nothing changes. -/
theorem write_of_not_opens (text : String) (refuses : store.opens path = false) :
    ∃ fault, store.write path text = { result := .error fault, store := store } := by
  rw [opens] at refuses
  rw [write]
  cases target : store.target path with
  | error fault => exact ⟨fault, rfl⟩
  | ok location =>
      simp only [target] at refuses
      split at refuses
      · rename_i fault closed
        exact ⟨fault, by simp [writeAt, closed]⟩
      · cases refuses

/-- A write that fails puts nothing on a stream, and nothing changes unless a file is left with a
beginning of the text. -/
theorem write_of_error {fault : SystemFault}
    (fails : (store.write path text).result = .error fault) :
    (store.write path text).stdout = "" ∧ (store.write path text).stderr = "" ∧
      ((store.write path text).store = store ∨
        ∃ location contents, store.target path = .ok location ∧
          store.isDevice location = false ∧
          (store.write path text).store = store.put location contents ∧
          IsBeginning contents text) := by
  cases target : store.target path with
  | error other =>
      rw [write, target]
      exact ⟨rfl, rfl, .inl rfl⟩
  | ok location =>
      rw [write_of_target target] at fails ⊢
      have writes := store.writeAt_writes location text
      generalize store.writeAt location text = written at writes fails
      cases writes with
      | replaced | passed => cases fails
      | refused => exact ⟨rfl, rfl, .inl rfl⟩
      | cutOff isFile beginning =>
          exact ⟨rfl, rfl, .inr ⟨location, _, rfl, isFile, rfl, beginning⟩⟩

end

end StructuredShell.FileStore
