import Mathlib.Logic.Function.Basic
import TripleIndex.Index
import TripleIndex.Proofs.Ranges
import TripleIndex.Proofs.Table

/-!
Posting lists in step with the documents. A document enters and leaves the list of a field by one pair,
and the list of a field whose values all have a rank says of every place which value the document there
has. Values that are no number are not found again, so only the fields without them are in step.
-/

namespace TripleIndex

namespace Postings

/-- The postings of a field hold, at each place, the value that the document there has. -/
structure Tracks (type : FieldType) (value : Place → Option Scalar) (p : Postings Scalar) : Prop where
  lawful : p.Lawful type.order
  admits : ∀ q v, value q = some v → type.Admits v
  relates : ∀ r q, p.Relates type.order r q ↔ ∃ v, value q = some v ∧ v.sortKey = r

variable {type : FieldType} {value : Place → Option Scalar} {p : Postings Scalar} {v : Scalar}

theorem tracks_empty (type : FieldType) : (empty : Postings Scalar).Tracks type fun _ => none := by
  refine ⟨lawful_empty, fun q v h => (nomatch h), fun r q => ?_⟩
  exact iff_of_false (not_relates_empty r q) (by simp)

theorem Tracks.remove (h : p.Tracks type value) {id : DocId} (hv : value id.place = some v) :
    (p.remove v id).Tracks type (Function.update value id.place none) := by
  obtain ⟨hlawful, hrelates⟩ := h.lawful.remove (h.admits _ v hv) id
  refine ⟨hlawful, fun q w hw => ?_, fun r q => ?_⟩
  · rw [Function.update_apply] at hw
    split at hw
    · cases hw
    · exact h.admits q w hw
  · rw [hrelates, h.relates, Function.update_apply]
    split
    · next hq =>
      subst hq
      constructor
      · rintro ⟨⟨w, hw, rfl⟩, hnot⟩
        cases hv.symm.trans hw
        exact absurd ⟨rfl, rfl⟩ hnot
      · rintro ⟨w, hw, -⟩
        cases hw
    · next hq => exact ⟨fun hr => hr.1, fun hr => ⟨hr, fun hrq => hq hrq.2⟩⟩

theorem Tracks.add (h : p.Tracks type value) {id : DocId} (hnone : value id.place = none)
    (hv : type.Admits v) : (p.add v id).Tracks type (Function.update value id.place (some v)) := by
  obtain ⟨hlawful, hrelates⟩ := h.lawful.add hv id
  refine ⟨hlawful, fun q w hw => ?_, fun r q => ?_⟩
  · rw [Function.update_apply] at hw
    split at hw
    · cases hw
      exact hv
    · exact h.admits q w hw
  · rw [hrelates, h.relates, Function.update_apply]
    split
    · next hq =>
      subst hq
      rw [hnone]
      constructor
      · rintro (⟨w, hw, -⟩ | ⟨rfl, -⟩)
        · cases hw
        · exact ⟨v, rfl, rfl⟩
      · rintro ⟨w, hw, rfl⟩
        cases hw
        exact .inr ⟨rfl, rfl⟩
    · next hq => exact ⟨fun hr => hr.resolve_right fun hrq => hq hrq.2, .inl⟩

theorem Tracks.mem_lookup (h : p.Tracks type value) (hv : type.Admits v) (q : Place) :
    q ∈ p.lookup v ↔ ∃ w, value q = some w ∧ w.same v = true := by
  rw [h.lawful.mem_lookup (o := type.order) hv, h.relates]
  constructor
  · rintro ⟨w, hw, heq⟩
    exact ⟨w, hw, (FieldType.same_iff (h.admits q w hw) hv).2 heq⟩
  · rintro ⟨w, hw, hsame⟩
    exact ⟨w, hw, (FieldType.same_iff (h.admits q w hw) hv).1 hsame⟩

end Postings

namespace Index

def at? (ix : Index) (q : Place) : Option Document := (ix.documents.lookup q).map Filed.fields

def value? (ix : Index) (field : String) (q : Place) : Option Scalar := (ix.at? q).bind (·.lookup field)

/-- The posting list of a field is in step with the documents. -/
def Tracks (ix : Index) (field : String) (type : FieldType) : Prop :=
  ∃ p, ix.postings? field = some p ∧ p.Tracks type (ix.value? field)

def discard (ix : Index) (id : DocId) (d : Document) : Index :=
  { ix with documents := ix.documents.without id.place }.withdraw id d

theorem at?_place (ix : Index) (id : DocId) : ix.at? id.place = (ix.filed? id).map Filed.fields := rfl

theorem removeAll_cons {ix : Index} {id : DocId} {filed : Filed} (h : ix.filed? id = some filed)
    (ids : List DocId) : ix.removeAll (id :: ids) = (ix.discard id filed.fields).removeAll ids := by
  rw [removeAll, h]
  rfl

/-! ## Changes of posting lists -/

section Change

variable (change : Scalar → Postings Scalar → Postings Scalar) (d : Document) (ix : Index)

/-- Change the posting list of each field of a document. -/
def modifyAll : Index := d.foldl (fun ix entry => ix.modify entry.1 (change entry.2)) ix

theorem modifyAll_frame : (modifyAll change d ix).documents = ix.documents ∧
    (modifyAll change d ix).schema = ix.schema ∧
    (modifyAll change d ix).postings.map Prod.fst = ix.postings.map Prod.fst := by
  unfold modifyAll
  induction d generalizing ix with
  | nil => exact ⟨rfl, rfl, rfl⟩
  | cons entry d ih =>
    obtain ⟨hdocuments, hschema, hpostings⟩ := ih (ix.modify entry.1 (change entry.2))
    refine ⟨hdocuments, hschema, hpostings.trans ?_⟩
    simp [modify, Function.comp_def]

/-- Every list is changed by the value that the document has in its field, once. -/
theorem postings_modifyAll (hd : Table.Distinct d) : (modifyAll change d ix).postings =
    ix.postings.map fun e => (e.1, (d.lookup e.1).elim e.2 (change · e.2)) := by
  unfold modifyAll
  -- a field whose list has been changed does not come again
  induction d generalizing ix with
  | nil => simp
  | cons entry d ih =>
    obtain ⟨name, v⟩ := entry
    obtain ⟨hname, hrest⟩ := List.nodup_cons.1 hd
    have hnone : d.lookup name = none := Table.lookup_eq_none_iff_not_mem.2 hname
    rw [List.foldl_cons, ih _ hrest, modify, List.map_map]
    refine List.map_congr_left fun e _ => ?_
    rw [Function.comp_apply, List.lookup_cons]
    by_cases hfield : e.1 = name
    · simp [hfield, hnone]
    · simp [beq_false_of_ne hfield, hfield]

theorem postings?_modifyAll (hd : Table.Distinct d) (field : String) :
    (modifyAll change d ix).postings? field =
      (ix.postings? field).map fun p => (d.lookup field).elim p (change · p) := by
  rw [postings?, postings_modifyAll change d ix hd]
  exact Table.lookup_map ix.postings (fun name p => (d.lookup name).elim p (change · p)) field

end Change

theorem enter_eq (ix : Index) (id : DocId) (d : Document) :
    ix.enter id d = ix.modifyAll (fun v p => p.add v id) d := rfl

theorem withdraw_eq (ix : Index) (id : DocId) (d : Document) :
    ix.withdraw id d = ix.modifyAll (fun v p => p.remove v id) d := rfl

/-! ## One document put or taken out -/

theorem documents_discard (ix : Index) (id : DocId) (d : Document) :
    (ix.discard id d).documents = ix.documents.without id.place := by
  rw [discard, withdraw_eq, (modifyAll_frame ..).1]

/-- The identifier that a place was first filed under stays. -/
theorem documents_put_eq (ix : Index) (id : DocId) (d : Document) : (ix.put id d).documents =
    ix.documents.put id.place ⟨((ix.filed? id).map Filed.id).getD id, d⟩ := by
  rw [put, enter_eq, (modifyAll_frame ..).1]

theorem documents_put (ix : Index) (id : DocId) (d : Document) :
    ∃ first, (ix.put id d).documents = ix.documents.put id.place ⟨first, d⟩ ∧
      (first = id ∨ ∃ old, ix.filed? id = some old ∧ first = old.id) := by
  refine ⟨_, documents_put_eq ix id d, ?_⟩
  cases h : ix.filed? id with
  | none => exact .inl rfl
  | some old => exact .inr ⟨old, rfl, rfl⟩

theorem at?_discard (ix : Index) (id : DocId) (d : Document) :
    (ix.discard id d).at? = Function.update ix.at? id.place none := by
  funext q
  rw [at?, documents_discard, Function.update_apply]
  split
  · next hq => rw [hq, Table.lookup_without_self, Option.map_none]
  · next hq => rw [Table.lookup_without_ne _ hq, at?]

theorem at?_put (ix : Index) (id : DocId) (d : Document) :
    (ix.put id d).at? = Function.update ix.at? id.place (some d) := by
  obtain ⟨first, hdocuments, -⟩ := ix.documents_put id d
  funext q
  rw [at?, hdocuments, Function.update_apply]
  split
  · next hq => rw [hq, Table.lookup_put_self, Option.map_some]
  · next hq => rw [Table.lookup_put_of_ne _ hq, at?]

theorem value?_of_at? {ix after : Index} {q : Place} {d : Option Document}
    (h : after.at? = Function.update ix.at? q d) (field : String) :
    after.value? field = Function.update (ix.value? field) q (d.bind (·.lookup field)) := by
  funext r
  rw [value?, h, Function.update_apply, Function.update_apply]
  split <;> rfl

variable {ix : Index} {field : String} {type : FieldType} {id : DocId} {old d : Document}
  {value : Place → Option Scalar} {p : Postings Scalar}

theorem exists_tracks_withdraw (ix : Index) (hfound : ix.postings? field = some p)
    (h : p.Tracks type value) (hvalue : value id.place = old.lookup field) (hold : Table.Distinct old) :
    ∃ p', (ix.withdraw id old).postings? field = some p' ∧
      p'.Tracks type (Function.update value id.place none) := by
  refine ⟨(old.lookup field).elim p fun v => p.remove v id, ?_, ?_⟩
  · rw [withdraw_eq, postings?_modifyAll _ _ _ hold, hfound, Option.map_some]
  · cases hv : old.lookup field with
    | none =>
      have hnone : value id.place = none := hvalue.trans hv
      have hself : Function.update value id.place none = value := by
        rw [← hnone, Function.update_eq_self]
      rw [hself]
      exact h
    | some v => exact h.remove (hvalue.trans hv)

theorem exists_tracks_enter (ix : Index) (hfound : ix.postings? field = some p)
    (h : p.Tracks type value) (hnone : value id.place = none) (hd : Table.Distinct d)
    (hadmits : ∀ v, d.lookup field = some v → type.Admits v) :
    ∃ p', (ix.enter id d).postings? field = some p' ∧
      p'.Tracks type (Function.update value id.place (d.lookup field)) := by
  refine ⟨(d.lookup field).elim p fun v => p.add v id, ?_, ?_⟩
  · rw [enter_eq, postings?_modifyAll _ _ _ hd, hfound, Option.map_some]
  · cases hv : d.lookup field with
    | none =>
      have hself : Function.update value id.place none = value := by
        rw [← hnone, Function.update_eq_self]
      rw [hself]
      exact h
    | some v => exact h.add hnone (hadmits v hv)

theorem Tracks.discard (h : ix.Tracks field type) (hat : ix.at? id.place = some old)
    (hold : Table.Distinct old) : (ix.discard id old).Tracks field type := by
  obtain ⟨p, hfound, hp⟩ := h
  have hvalue : ix.value? field id.place = old.lookup field := by rw [value?, hat, Option.bind_some]
  rw [Tracks, value?_of_at? (at?_discard ix id old)]
  exact exists_tracks_withdraw { ix with documents := ix.documents.without id.place } hfound hp hvalue hold

/-- The posting lists that the values of a document are entered in, which have nothing under its identifier. -/
def cleared (ix : Index) (id : DocId) : Index :=
  match ix.filed? id with
  | some old => ix.withdraw id old.fields
  | none => ix

theorem Tracks.cleared (h : ix.Tracks field type) (hold : ∀ old, ix.at? id.place = some old → Table.Distinct old) :
    ∃ p, (ix.cleared id).postings? field = some p ∧
      p.Tracks type (Function.update (ix.value? field) id.place none) := by
  obtain ⟨p, hfound, hp⟩ := h
  cases hfiled : ix.filed? id with
  | none =>
    have hnone : ix.value? field id.place = none := by
      rw [value?, at?_place, hfiled]
      rfl
    have hself : Function.update (ix.value? field) id.place none = ix.value? field := by
      rw [← hnone, Function.update_eq_self]
    rw [Index.cleared, hfiled, hself]
    exact ⟨p, hfound, hp⟩
  | some old =>
    have hat : ix.at? id.place = some old.fields := by rw [at?_place, hfiled, Option.map_some]
    have hvalue : ix.value? field id.place = old.fields.lookup field := by
      rw [value?, hat, Option.bind_some]
    rw [Index.cleared, hfiled]
    exact exists_tracks_withdraw ix hfound hp hvalue (hold _ hat)

theorem Tracks.put (h : ix.Tracks field type) (hold : ∀ old, ix.at? id.place = some old → Table.Distinct old)
    (hd : Table.Distinct d) (hadmits : ∀ v, d.lookup field = some v → type.Admits v) :
    (ix.put id d).Tracks field type := by
  obtain ⟨p, hcleared, htracks⟩ := h.cleared hold
  have hidem := Function.update_idem (a := id.place) none (d.lookup field) (ix.value? field)
  rw [Tracks, value?_of_at? (at?_put ix id d), Option.bind_some, ← hidem]
  exact exists_tracks_enter { ix.cleared id with documents := _ } hcleared htracks (Function.update_self ..) hd hadmits

end Index

end TripleIndex
