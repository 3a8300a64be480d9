import TripleIndex.SharedIndex
import TripleIndex.Proofs.Outcome
import TripleIndex.Proofs.Snapshots.Changes
import TripleIndex.Proofs.Snapshots.Copies

/-!
Readers of an index in shared memory. No reader sees anything from some extent on, and while the index is
not shared it lies from that extent on. So a change is made where no reader looks, in the copy if the index is
shared and in place if it is not, and each reader goes on seeing the index of the moment that it was opened.
-/

namespace TripleIndex

/-- What is done with an index, by whoever has it. -/
inductive Event where
  | openReader
  | closeReader (place : Nat)
  | write (d : Document)
  | delete (f : Filter)
  deriving DecidableEq

/-- What an event does to an index that nobody reads. A change that is refused does nothing. -/
def Index.act (ix : Index) : Event → Index
  | .openReader | .closeReader _ => ix
  | .write d => match ix.write d with
    | .ok after => after
    | .error _ => ix
  | .delete f => (ix.delete f).1

/-- An index after the changes among some events. -/
def Index.replay (ix : Index) (events : List Event) : Index := events.foldl Index.act ix

namespace SharedIndex

def act (s : SharedIndex) : Event → SharedIndex
  | .openReader => s.openReader
  | .closeReader place => s.closeReader place
  | .write d => match s.write d with
    | .ok after => after
    | .error _ => s
  | .delete f => (s.delete f).1

def run (s : SharedIndex) (events : List Event) : SharedIndex := events.foldl act s

/-- Readers see what lies before an extent, and the index lies behind it unless they share it. -/
structure Isolated (e : Extent) (s : SharedIndex) : Prop where
  within : e.Within s.memory.extent
  readers : ∀ l, some l ∈ s.readers → s.memory.Holds e l
  held : s.memory.Holds s.memory.extent s.current
  owned : s.shared = false → s.memory.Owned e s.current

variable {s after : SharedIndex} {e : Extent}

theorem isolated_empty (schema : Schema) : (empty schema).Isolated ⟨0, 0, 0⟩ where
  within := (Memory.owned_start schema).within
  readers _ hl := absurd hl List.not_mem_nil
  held := (Memory.owned_start schema).held
  owned _ := Memory.owned_start schema

theorem content_empty (schema : Schema) : (empty schema).content = .empty schema := Memory.read_start schema

/-! ## Readers -/

theorem reader_eq_of_getElem? {place : Nat} {l : Layout} (h : s.readers[place]? = some (some l)) :
    s.reader place = .opened (s.memory.read s.schema l) := by
  rw [reader, h]

theorem reader_congr {place : Nat} (hreaders : after.readers[place]? = s.readers[place]?)
    (hread : ∀ l, some l ∈ s.readers → after.memory.read after.schema l = s.memory.read s.schema l) :
    after.reader place = s.reader place := by
  rw [reader, hreaders, reader]
  split
  · next l hl => rw [hread l (List.mem_of_getElem? hl)]
  · rfl

theorem Isolated.openReader (h : s.Isolated e) : s.openReader.Isolated s.memory.extent where
  within := .refl _
  readers l hl := by
    rcases List.mem_append.1 hl with hl | hl
    · exact (h.readers l hl).mono h.within
    · cases List.mem_singleton.1 hl
      exact h.held
  held := h.held
  owned hshared := by cases hshared

theorem Isolated.closeReader (h : s.Isolated e) (place : Nat) : (s.closeReader place).Isolated e where
  within := h.within
  readers l hl := by
    rcases List.mem_or_eq_of_mem_set hl with hl | hl
    · exact h.readers l hl
    · cases hl
  held := h.held
  owned := h.owned

theorem reader_openReader (s : SharedIndex) : s.openReader.reader s.readers.length = .opened s.content := by
  refine reader_eq_of_getElem? ?_
  rw [SharedIndex.openReader, List.getElem?_append_right (Nat.le_refl _), Nat.sub_self]
  rfl

theorem reader_openReader_of_lt {place : Nat} (h : place < s.readers.length) :
    s.openReader.reader place = s.reader place :=
  reader_congr (List.getElem?_append_left h) fun _ _ => rfl

theorem reader_closeReader_self (s : SharedIndex) (place : Nat) :
    (s.closeReader place).reader place = .closed := by
  rw [reader, SharedIndex.closeReader, List.getElem?_set_self']
  cases s.readers[place]? <;> rfl

theorem reader_closeReader_of_ne {place other : Nat} (h : place ≠ other) :
    (s.closeReader place).reader other = s.reader other :=
  reader_congr (List.getElem?_set_ne h) fun _ _ => rfl

/-! ## Changes -/

/-- An isolated index holds some content, and its readers are those of the index before. -/
structure Follows (s : SharedIndex) (content : Index) (after : SharedIndex) : Prop where
  isolated : ∃ e, after.Isolated e
  content : after.content = content
  readers : after.readers.length = s.readers.length
  reader : ∀ place, after.reader place = s.reader place

theorem Isolated.follows (h : s.Isolated e) : s.Follows s.content s := ⟨⟨e, h⟩, rfl, rfl, fun _ => rfl⟩

/-- What has its own places is changed in place, and no reader sees it. -/
theorem Isolated.follows_inPlace (h : s.Isolated e) {m : Memory} {f : Index → Index}
    (hchange : Memory.CarriesOut f e s.current s.memory m) :
    s.Follows (f s.content) { s with memory := m } := by
  have hisolated : Isolated e { s with memory := m } :=
    ⟨hchange.owned.within, fun l hl => hchange.keeps.holds (h.readers l hl), hchange.owned.held,
      fun _ => hchange.owned⟩
  refine ⟨⟨e, hisolated⟩, hchange.read s.schema, rfl, fun place => ?_⟩
  exact reader_congr rfl fun l hl => hchange.keeps.read_eq (h.readers l hl) s.schema

theorem Isolated.writable (h : s.Isolated e) : ∃ e', s.writable.Isolated e' ∧
    s.writable.memory.Owned e' s.writable.current ∧ s.Follows s.content s.writable := by
  cases hshared : s.shared with
  | false =>
    have hsame : s.writable = s := by rw [SharedIndex.writable, hshared]; rfl
    rw [hsame]
    exact ⟨e, h, h.owned hshared, h.follows⟩
  | true =>
    obtain ⟨howned, hkeeps, hread⟩ := h.held.copy s.schema
    have hcopy : s.writable = { s with
        memory := (s.memory.copy s.current).1, current := (s.memory.copy s.current).2, shared := false } := by
      rw [SharedIndex.writable, hshared]
      rfl
    -- the copy lies behind everything that readers see, so they stay apart from it
    have hreaders : ∀ l, some l ∈ s.readers → s.memory.Holds s.memory.extent l :=
      fun l hl => (h.readers l hl).mono h.within
    have hisolated : s.writable.Isolated s.memory.extent := by
      rw [hcopy]
      exact ⟨howned.within, fun l hl => hkeeps.holds (hreaders l hl), howned.held, fun _ => howned⟩
    refine ⟨s.memory.extent, hisolated, ?_, ⟨⟨_, hisolated⟩, ?_, ?_, fun place => ?_⟩⟩ <;> rw [hcopy]
    · exact howned
    · exact hread
    · exact reader_congr rfl fun l hl => hkeeps.read_eq (hreaders l hl) s.schema

theorem Isolated.follows_writable (h : s.Isolated e) {change : Memory → Layout → Memory} {f : Index → Index}
    (hchange : ∀ {m e l}, m.Owned e l → Memory.CarriesOut f e l m (change m l)) :
    s.Follows (f s.content)
      { s.writable with memory := change s.writable.memory s.writable.current } := by
  obtain ⟨e', hisolated, howned, hfollows⟩ := h.writable
  have hchanged := hisolated.follows_inPlace (hchange howned)
  rw [hfollows.content] at hchanged
  refine ⟨hchanged.isolated, hchanged.content, hchanged.readers.trans hfollows.readers, fun place => ?_⟩
  rw [hchanged.reader, hfollows.reader]

/-- A write is refused as an index that nobody reads refuses it, or it is the write of that index. -/
theorem Isolated.write (h : s.Isolated e) (d : Document) :
    (∃ f, s.write d = .error f ∧ s.content.write d = .error f) ∨
      ∃ after ix, s.write d = .ok after ∧ s.content.write d = .ok ix ∧ s.Follows ix after := by
  have hschema : s.content.schema = s.schema := rfl
  cases hset : ((d.lookup Field.id).getD .null).isSet with
  | false => exact .inl ⟨.noId, by simp [SharedIndex.write, hset], by simp [Index.write, hset]⟩
  | true =>
    cases hstored : Index.convertAll s.schema d with
    | error f =>
      refine .inl ⟨f, ?_, ?_⟩
      · simp [SharedIndex.write, hset, hstored]
      · simp [Index.write, hset, hschema, hstored]
    | ok stored =>
      have hput := h.follows_writable fun howned =>
        howned.put (s.content.newId ((stored.lookup Field.id).getD .null)) stored
      refine .inr ⟨_, _, ?_, ?_, hput⟩
      · simp only [SharedIndex.write, hset, hstored, ok_bind]
        rfl
      · simp only [Index.write, hset, hschema, hstored, ok_bind]
        rfl

theorem Isolated.delete (h : s.Isolated e) (f : Filter) :
    s.Follows (s.content.delete f).1 (s.delete f).1 ∧ (s.delete f).2 = (s.content.delete f).2 := by
  unfold SharedIndex.delete Index.delete
  cases s.content.evaluate f none with
  | error fault => exact ⟨h.follows, rfl⟩
  | ok selected =>
    by_cases hempty : selected.isEmpty = true
    · -- nothing is selected, so nothing is copied either
      rw [(IdSet.isEmpty_iff selected).1 hempty]
      exact ⟨h.follows, rfl⟩
    · have hfollows := h.follows_writable fun howned => (howned.removeAll selected.toList).1
      obtain ⟨e', -, howned, hwritable⟩ := h.writable
      have houtcome : (s.writable.memory.removeAll s.writable.current selected.toList).2 =
          (s.content.removeAll selected.toList).2 := by
        rw [← hwritable.content]
        exact (howned.removeAll selected.toList).2 s.writable.schema
      simp only [if_neg hempty, houtcome]
      cases hall : s.content.removeAll selected.toList with
      | mk after outcome =>
        rw [hall] at hfollows
        cases outcome <;> exact ⟨hfollows, rfl⟩

/-! ## Runs -/

/-- What some events leave of an isolated index and its readers: the index is the one that nobody reads after
the same changes, and no reader sees anything but that it is closed. -/
structure Outlasts (s : SharedIndex) (events : List Event) (after : SharedIndex) : Prop where
  isolated : ∃ e, after.Isolated e
  content : after.content = s.content.replay events
  readers : after.readers.length = s.readers.length + events.count .openReader
  reader : ∀ place < s.readers.length, after.reader place =
    if .closeReader place ∈ events then .closed else s.reader place

theorem Outlasts.trans {events later : List Event} {last : SharedIndex} (h : s.Outlasts events after)
    (h' : after.Outlasts later last) : s.Outlasts (events ++ later) last where
  isolated := h'.isolated
  content := by
    rw [h'.content, h.content, Index.replay, Index.replay, Index.replay, List.foldl_append]
  readers := by
    rw [h'.readers, h.readers, List.count_append, Nat.add_assoc]
  reader place hplace := by
    have hstill : place < after.readers.length := by
      rw [h.readers]
      omega
    rw [h'.reader place hstill, h.reader place hplace]
    by_cases hlater : .closeReader place ∈ later
    · rw [if_pos hlater, if_pos (List.mem_append_right _ hlater)]
    · simp only [List.mem_append, hlater, or_false, if_false]

theorem Follows.outlasts {event : Event} (h : s.Follows (s.content.act event) after)
    (hopen : event ≠ .openReader) (hclose : ∀ place, event ≠ .closeReader place) :
    s.Outlasts [event] after where
  isolated := h.isolated
  content := h.content
  readers := by
    rw [h.readers, List.count_singleton, if_neg (by simpa using hopen)]
    rfl
  reader place _ := by
    rw [h.reader, if_neg]
    exact fun hmem => hclose place (List.mem_singleton.1 hmem).symm

theorem Isolated.outlasts_act (h : s.Isolated e) (event : Event) : s.Outlasts [event] (s.act event) := by
  cases event with
  | openReader =>
    refine ⟨⟨_, h.openReader⟩, rfl, by simp [SharedIndex.act, SharedIndex.openReader], fun place hplace => ?_⟩
    rw [if_neg (by simp)]
    exact reader_openReader_of_lt hplace
  | closeReader closed =>
    refine ⟨⟨_, h.closeReader closed⟩, rfl, by simp [SharedIndex.act, SharedIndex.closeReader], fun place _ => ?_⟩
    by_cases hplace : closed = place
    · subst hplace
      rw [if_pos List.mem_cons_self]
      exact reader_closeReader_self s closed
    · rw [if_neg (by simpa using Ne.symm hplace)]
      exact reader_closeReader_of_ne hplace
  | write d =>
    refine Follows.outlasts ?_ (by simp) (by simp)
    rcases h.write d with ⟨f, hs, hix⟩ | ⟨after, ix, hs, hix, hf⟩
    · simp only [SharedIndex.act, Index.act, hs, hix]
      exact h.follows
    · simp only [SharedIndex.act, Index.act, hs, hix]
      exact hf
  | delete f => exact (h.delete f).1.outlasts (by simp) (by simp)

/-- The extent that separates the index from its readers moves on with each reader that is opened and each copy
that is made, so only its being there is carried along. -/
theorem Isolated.outlasts_run (h : s.Isolated e) (events : List Event) : s.Outlasts events (s.run events) := by
  induction events generalizing s e with
  | nil => exact ⟨⟨e, h⟩, rfl, rfl, fun _ _ => by rw [if_neg List.not_mem_nil]; rfl⟩
  | cons event events ih =>
    have hone := h.outlasts_act event
    obtain ⟨e', hact⟩ := hone.isolated
    exact hone.trans (ih hact)

end SharedIndex

end TripleIndex
