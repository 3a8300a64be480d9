import TripleIndex.Proofs.Join.Candidates
import TripleIndex.Proofs.PlainMap
import TripleIndex.Proofs.Snapshots.Readers

/-!
What an index goes on giving out. A number that is none is in no order, so a posting list in which it was
entered is never rid of it. Where none was entered, and for queries that ask for no numbers, the index answers
with documents that it has, deletes what it answers with, and is as it was after whatever it refuses.
-/

namespace TripleIndex

/-- A document whose numbers are numbers once they are converted. -/
def Document.HasNumbers (schema : Schema) (d : Document) : Prop :=
  ∀ stored, Index.convertAll schema d = .ok stored → ∀ e ∈ stored, e.2.isNan = false

/-- A query that asks for no numbers. -/
def Filter.AvoidsNumbers (schema : Schema) (f : Filter) : Prop :=
  ∀ c ∈ f, schema.type? c.field ≠ some .double

namespace Index

variable {ix : Index} {schema : Schema} {tracked : FieldType → Prop}

theorem Maintained.act (h : ix.Maintained schema tracked) {event : Event}
    (hevent : ∀ d, event = .write d → d.IsProper ∧
      ∀ stored, convertAll schema d = .ok stored → ∀ e ∈ stored, ∀ t, schema.type? e.1 = some t →
        tracked t → e.2.isNan = false) : (ix.act event).Maintained schema tracked := by
  cases event with
  | openReader => exact h
  | closeReader place => exact h
  | delete f => exact h.delete f
  | write d =>
    rw [Index.act]
    cases hwrite : ix.write d with
    | error f => exact h
    | ok after =>
      obtain ⟨hproper, hnan⟩ := hevent d rfl
      exact h.write hproper hwrite hnan

theorem Maintained.replay (h : ix.Maintained schema tracked) {events : List Event}
    (hevents : ∀ d, .write d ∈ events → d.IsProper ∧
      ∀ stored, convertAll schema d = .ok stored → ∀ e ∈ stored, ∀ t, schema.type? e.1 = some t →
        tracked t → e.2.isNan = false) : (ix.replay events).Maintained schema tracked := by
  induction events generalizing ix with
  | nil => exact h
  | cons event events ih =>
    have hact := h.act fun d hd => hevents d (hd ▸ List.mem_cons_self)
    exact ih hact fun d hd => hevents d (List.mem_cons_of_mem _ hd)

theorem isNan_of_convertAll {d stored : Document} (h : convertAll schema d = .ok stored) {e : String × Scalar}
    (he : e ∈ stored) {t : FieldType} (ht : schema.type? e.1 = some t) (hdouble : t ≠ .double) :
    e.2.isNan = false := by
  obtain ⟨v, -, hconvert⟩ := (convertAll_eq_ok h).2 e he
  obtain ⟨t', ht', hconvert⟩ := Schema.convert_eq_ok.1 hconvert
  cases ht.symm.trans ht'
  exact FieldType.isNan_of_convert hconvert hdouble

/-- After proper documents were written, a query is answered from lists in step if they all had numbers for
numbers or if it asks for none. -/
theorem scans_replay {events : List Event} (hproper : ∀ d, .write d ∈ events → d.IsProper) {f : Filter}
    (hf : f.IsProper)
    (hnumbers : (∀ d, .write d ∈ events → d.HasNumbers schema) ∨ f.AvoidsNumbers schema) :
    ∃ tracked, ((Index.empty schema).replay events).Maintained schema tracked ∧
      ∀ c ∈ f, ((Index.empty schema).replay events).Scans c := by
  rcases hnumbers with hnumbers | havoids
  · have hmaintained := (maintained_empty schema fun _ => True).replay
      fun d hd => ⟨hproper d hd, fun stored hstored e he _ _ _ => hnumbers d hd stored hstored e he⟩
    exact ⟨_, hmaintained, fun c hc => hmaintained.scans (hf c hc)⟩
  · have hmaintained := (maintained_empty schema (· ≠ .double)).replay
      fun d hd => ⟨hproper d hd, fun _ hstored _ he _ ht hdouble => isNan_of_convertAll hstored he ht hdouble⟩
    refine ⟨_, hmaintained, fun c hc => hmaintained.scans_of_tracked (hf c hc) fun t ht hdouble => ?_⟩
    exact havoids c hc (hdouble ▸ ht)

theorem eq_nil_of_narrow {f : Filter} (h : ix.narrow f none = .ok none) : f = [] := by
  cases f with
  | nil => rfl
  | cons c cs =>
    rw [narrow, if_neg (by simp)] at h
    obtain ⟨matching, -, h⟩ := bind_eq_ok.1 h
    obtain ⟨t, ht⟩ := exists_of_narrow_some h
    cases ht

/-- An answer consists of documents that are there. Only a query without clauses gives back what it is asked
within. -/
theorem Sound.stored_of_evaluate (h : ix.Sound) {f : Filter} (hscans : ∀ c ∈ f, ix.Scans c)
    {within : Option IdSet} (hwithin : f = [] → ∀ w ∈ within, ∀ q ∈ w, ∃ d, ix.at? q = some d)
    {result : IdSet} (heval : ix.evaluate f within = .ok result) {q : Place} (hq : q ∈ result) :
    ∃ d, ix.at? q = some d := by
  obtain ⟨selected, hnarrow, heval⟩ := bind_eq_ok.1 heval
  have hunrestricted : ∀ all, ix.evaluate f none = .ok all → ∀ q ∈ all, ∃ d, ix.at? q = some d := by
    intro all hall q hq
    obtain ⟨d, hd, -⟩ := (Index.mem_evaluate h.mem_ids hscans hall q).1 hq
    exact ⟨d, hd⟩
  cases selected with
  | none =>
    have hall : ix.evaluate f none = .ok ix.ids := bind_eq_ok.2 ⟨none, hnarrow, rfl⟩
    cases within with
    | none =>
      cases heval
      exact hunrestricted _ hall q hq
    | some w =>
      cases heval
      exact hwithin (eq_nil_of_narrow hnarrow) w rfl q hq
  | some s =>
    have hall : ix.evaluate f none = .ok s := bind_eq_ok.2 ⟨some s, hnarrow, rfl⟩
    cases within with
    | none =>
      cases heval
      exact hunrestricted _ hall q hq
    | some w =>
      cases heval
      exact hunrestricted _ hall q ((IdSet.mem_inter q s w).1 hq).1

theorem read_opened (id : DocId) : (∃ d, (Reader.opened ix).read id = .ok d) ↔ ∃ d, ix.at? id.place = some d := by
  rw [at?_place]
  unfold Reader.read
  simp only [Reader.snapshot, ok_bind]
  cases ix.filed? id with
  | none => exact iff_of_false (by simp) (by simp)
  | some filed => exact iff_of_true ⟨_, rfl⟩ ⟨_, rfl⟩

theorem Sound.read_of_evaluate (h : ix.Sound) {f : Filter} (hscans : ∀ c ∈ f, ix.Scans c) {within : Option IdSet}
    (hwithin : f = [] → ∀ w ∈ within, ∀ id ∈ w.toList, ∃ d, (Reader.opened ix).read id = .ok d) {ids : IdSet}
    (heval : (Reader.opened ix).evaluate f within = .ok ids) :
    ∀ id ∈ ids.toList, ∃ d, (Reader.opened ix).read id = .ok d := by
  simp only [read_opened] at hwithin ⊢
  intro id hid
  have hwithin' : f = [] → ∀ w ∈ within, ∀ q ∈ w, ∃ d, ix.at? q = some d := by
    intro hf w hw q hq
    obtain ⟨id, hid, rfl⟩ := List.mem_map.1 hq
    exact hwithin hf w hw id hid
  exact h.stored_of_evaluate hscans hwithin' heval (List.mem_map_of_mem hid)

end Index

/-! ## Requests -/

/-- What an index is asked to do. -/
inductive Request where
  | openReader
  | closeReader (place : Nat)
  | write (d : Document)
  | delete (f : Filter)
  | deleteText (text : String)

/-- The request is to delete what a query selects, given as such or as a text. -/
def Request.Deletes (request : Request) (f : Filter) : Prop :=
  request = .delete f ∨ ∃ text, request = .deleteText text ∧ Filter.ofText text = .ok f

/-- What comes to happen upon a request. -/
def Request.events : Request → List Event
  | openReader => [.openReader]
  | closeReader place => [.closeReader place]
  | write d => [.write d]
  | delete f => [.delete f]
  | deleteText text => match Filter.ofText text with
    | .ok f => [.delete f]
    | .error _ => []

namespace SharedIndex

def serve (s : SharedIndex) : Request → SharedIndex × Except Fault Unit
  | .openReader => (s.openReader, .ok ())
  | .closeReader place => (s.closeReader place, .ok ())
  | .write d => match s.write d with
    | .ok after => (after, .ok ())
    | .error f => (s, .error f)
  | .delete f => ((s.delete f).1, (s.delete f).2.map fun _ => ())
  | .deleteText text => ((s.deleteText text).1, (s.deleteText text).2.map fun _ => ())

def serveAll (s : SharedIndex) (requests : List Request) : SharedIndex :=
  requests.foldl (fun s request => (s.serve request).1) s

variable {s : SharedIndex} {e : Extent} {schema : Schema}

theorem serve_eq (s : SharedIndex) (request : Request) : (s.serve request).1 = s.run request.events := by
  cases request with
  | openReader => rfl
  | closeReader place => rfl
  | delete f => rfl
  | write d =>
    show (s.serve (.write d)).1 = s.act (.write d)
    rw [serve, act]
    cases s.write d <;> rfl
  | deleteText text =>
    rw [serve, deleteText, Request.events]
    cases Filter.ofText text <;> rfl

theorem serveAll_eq (s : SharedIndex) (requests : List Request) :
    s.serveAll requests = s.run (requests.flatMap Request.events) := by
  induction requests generalizing s with
  | nil => rfl
  | cons request requests ih =>
    have hrun : s.run ((request :: requests).flatMap Request.events) =
        (s.run request.events).run (requests.flatMap Request.events) := by
      rw [List.flatMap_cons, run, List.foldl_append]
      rfl
    rw [hrun, ← serve_eq, ← ih]
    rfl

theorem write_mem_events {request : Request} {d : Document} :
    .write d ∈ request.events ↔ request = .write d := by
  cases request with
  | deleteText text =>
    rw [Request.events]
    cases Filter.ofText text <;> simp
  | _ => simp [Request.events, eq_comm]

/-- A request is granted, or it is refused before anything was done, or it is to delete something. -/
theorem serve_cases (s : SharedIndex) (request : Request) : (s.serve request).2 = .ok () ∨
    (s.serve request).1 = s ∨ ∃ f, request.Deletes f := by
  cases request with
  | openReader => exact .inl rfl
  | closeReader place => exact .inl rfl
  | delete f => exact .inr (.inr ⟨f, .inl rfl⟩)
  | write d =>
    rw [serve]
    cases s.write d with
    | error f => exact .inr (.inl rfl)
    | ok after => exact .inl rfl
  | deleteText text =>
    rw [serve, deleteText]
    cases htext : Filter.ofText text with
    | error f => exact .inr (.inl rfl)
    | ok f => exact .inr (.inr ⟨f, .inr ⟨text, rfl, htext⟩⟩)

theorem Isolated.delete_refused (h : s.Isolated e) (hsound : s.content.Sound) {f : Filter}
    (hscans : ∀ c ∈ f, s.content.Scans c) {fault : Fault} (hfault : (s.delete f).2 = .error fault) :
    (s.delete f).1 = s := by
  cases heval : s.content.evaluate f none with
  | error cause => rw [SharedIndex.delete, heval]
  | ok selected =>
    obtain ⟨after, -, hremoved⟩ := hsound.removal_of_evaluate hscans heval
    rw [(h.delete f).2, hremoved] at hfault
    cases hfault

/-- A reader that is opened now and asked later is closed or answers as the index would now. -/
theorem Isolated.reader_later (h : s.Isolated e) (later : List Request) :
    let r := ((s.serve .openReader).1.serveAll later).reader s.readers.length
    r = .closed ∨ r = .opened s.content := by
  intro r
  have hplace : s.readers.length < s.openReader.readers.length := by
    simp [SharedIndex.openReader]
  have hlater := (h.openReader.outlasts_run (later.flatMap Request.events)).reader s.readers.length hplace
  rw [← serveAll_eq, reader_openReader] at hlater
  split at hlater
  · exact .inl hlater
  · exact .inr hlater

/-- After proper documents were written, all that is given out for a query are documents that are there, by
readers opened now whatever is requested later; what it selects can be deleted; and what is refused changes
nothing. That is so for queries that ask for numbers as well, as long as all numbers written were numbers. -/
theorem stored_serveAll {earlier : List Request} (hproper : ∀ d, .write d ∈ earlier → d.IsProper) {f : Filter}
    (hf : f.IsProper)
    (hnumbers : (∀ d, .write d ∈ earlier → d.HasNumbers schema) ∨ f.AvoidsNumbers schema) :
    let s := (SharedIndex.empty schema).serveAll earlier
    (∀ (later : List Request) (within : Option IdSet) (ids : IdSet),
      let r := ((s.serve .openReader).1.serveAll later).reader s.readers.length
      (f = [] → ∀ w ∈ within, ∀ id ∈ w.toList, ∃ d, r.read id = .ok d) →
        r.evaluate f within = .ok ids → ∀ id ∈ ids.toList, ∃ d, r.read id = .ok d) ∧
    (∀ request : Request, request.Deletes f → f.Suits schema → (s.serve request).2 = .ok ()) ∧
    ∀ (request : Request) (fault : Fault), (∀ g, request.Deletes g → g = f) →
      (s.serve request).2 = .error fault → (s.serve request).1 = s := by
  intro s
  have hmem : ∀ d, .write d ∈ earlier.flatMap Request.events → .write d ∈ earlier := by
    intro d hd
    obtain ⟨request, hrequest, hd⟩ := List.mem_flatMap.1 hd
    exact write_mem_events.1 hd ▸ hrequest
  obtain ⟨⟨e, hisolated⟩, hcontent, -, -⟩ :=
    (isolated_empty schema).outlasts_run (earlier.flatMap Request.events)
  rw [← serveAll_eq, content_empty] at hcontent
  rw [← serveAll_eq] at hisolated
  obtain ⟨tracked, hmaintained, hscans⟩ := Index.scans_replay (fun d hd => hproper d (hmem d hd)) hf
    (hnumbers.imp_left fun hnumbers d hd => hnumbers d (hmem d hd))
  rw [← hcontent] at hmaintained hscans
  -- what a deletion says is what the index says that nobody reads
  have hdelete := (hisolated.delete f).2
  have hdeletes : ∀ request : Request, request.Deletes f →
      s.serve request = ((s.delete f).1, (s.delete f).2.map fun _ => ()) := by
    rintro request (rfl | ⟨text, rfl, htext⟩)
    · rfl
    · rw [serve, deleteText, htext]
  refine ⟨fun later within ids => ?_, fun request hrequest hsuits => ?_, fun request fault honly hfault => ?_⟩
  · intro r hwithin heval
    rcases hisolated.reader_later later with hr | hr
    · rw [show r = .closed from hr] at heval
      cases heval
    · rw [show r = .opened s.content from hr] at hwithin heval ⊢
      exact hmaintained.sound.read_of_evaluate hscans hwithin heval
  · rw [hdeletes request hrequest, hdelete]
    obtain ⟨selected, heval⟩ := hmaintained.exists_evaluate hsuits none
    obtain ⟨after, -, hremoved⟩ := hmaintained.sound.removal_of_evaluate hscans heval
    rw [hremoved]
    rfl
  · rcases s.serve_cases request with hserved | hsame | ⟨g, hg⟩
    · rw [hserved] at hfault
      cases hfault
    · exact hsame
    · have hgf := honly g hg
      subst hgf
      rw [hdeletes request hg] at hfault ⊢
      exact hisolated.delete_refused hmaintained.sound hscans (map_eq_error.1 hfault)

/-- An infinite number and another one, whose document is deleted again under the eyes of a reader. -/
def infinities : List Request := [
  .write [(Field.id, .text "a"), (Field.subject, .text "<s>"), (Field.numericObject, .float (.infinite false))],
  .openReader,
  .write [(Field.id, .text "b"), (Field.subject, .text "<t>"), (Field.numericObject, .float (.infinite true))],
  .deleteText "subject:\"<t>\""]

def numbered : Filter := [.range Field.numericObject none none]

theorem suits_numbered : numbered.Suits .triples :=
  List.forall_mem_singleton.2 ⟨rfl, ⟨none, rfl⟩, ⟨none, rfl⟩⟩

theorem stored_infinities : (∀ d, .write d ∈ infinities → d.IsProper ∧ d.HasNumbers .triples) ∧
    numbered.IsProper ∧
    let s := (SharedIndex.empty .triples).serveAll infinities
    let r := ((s.serve .openReader).1.serveAll [.delete numbered]).reader s.readers.length
    (∃ ids, r.evaluate numbered none = .ok ids ∧ ids.toList = [.text "a"] ∧
      ∀ id ∈ ids.toList, ∃ d, r.read id = .ok d) ∧
    (s.serve (.deleteText "numeric_object:[* TO *]")).2 = .ok () := by
  have hwrites : ∀ d, .write d ∈ infinities → d.IsProper ∧ d.HasNumbers .triples := by
    have hwrite : ∀ (id subject : String) (negative : Bool),
        let d : Document := [(Field.id, .text id), (Field.subject, .text subject),
          (Field.numericObject, .float (.infinite negative))]
        d.IsProper ∧ d.HasNumbers .triples := by
      refine fun id subject negative => ⟨⟨?_, by simp [Scalar.IsProper]⟩, fun stored hstored => ?_⟩
      · simp [Table.Distinct, Field.id, Field.subject, Field.numericObject]
      · cases hstored
        simp [Scalar.isNan, Double.isNan]
    intro d hd
    simp only [infinities, List.mem_cons, Request.write.injEq, reduceCtorEq, List.not_mem_nil, or_false,
      false_or] at hd
    rcases hd with rfl | rfl <;> exact hwrite ..
  have hproper : numbered.IsProper := List.forall_mem_singleton.2 ⟨by simp, by simp⟩
  obtain ⟨hreaders, hdeletes, -⟩ := stored_serveAll (fun d hd => (hwrites d hd).1) hproper
    (.inl fun d hd => (hwrites d hd).2)
  have htext : Filter.ofText "numeric_object:[* TO *]" = .ok numbered := by rfl
  refine ⟨hwrites, hproper, ?_⟩
  intro s r
  refine ⟨?_, hdeletes _ (.inr ⟨_, rfl, htext⟩) suits_numbered⟩
  have hanswer : (r.evaluate numbered none).toOption.map (·.toList) = some [.text "a"] := by decide +kernel
  obtain ⟨ids, heval, hids⟩ := Option.map_eq_some_iff.1 hanswer
  have hread := hreaders [.delete numbered] none ids (by simp) (toOption_eq_some.1 heval)
  exact ⟨ids, toOption_eq_some.1 heval, hids, hread⟩

/-- One document, with a number that is none, and it is deleted again. -/
def lostNumber : List Request := [
  .write [(Field.id, .text "a"), (Field.subject, .text "<s>"), (Field.numericObject, .float (.nan 0))],
  .deleteText "subject:\"<s>\""]

theorem stored_lostNumber :
    let s := (SharedIndex.empty .triples).serveAll lostNumber
    let r := (s.serve .openReader).1.reader 0
    (∃ ids, r.evaluate numbered none = .ok ids ∧ .text "a" ∈ ids.toList ∧ ∀ d, r.read (.text "a") ≠ .ok d) ∧
    Filter.ofText "numeric_object:[* TO *]" = .ok numbered ∧ numbered.Suits .triples ∧
    (s.serve (.deleteText "numeric_object:[* TO *]")).2 ≠ .ok () := by
  intro s r
  have hanswer : (r.evaluate numbered none).toOption.map (·.toList) = some [.text "a"] := by decide +kernel
  have hread : (r.read (.text "a")).toOption = none := by decide +kernel
  have hdelete : (s.serve (.deleteText "numeric_object:[* TO *]")).2.toOption = none := by decide +kernel
  obtain ⟨ids, heval, hids⟩ := Option.map_eq_some_iff.1 hanswer
  refine ⟨⟨ids, toOption_eq_some.1 heval, hids ▸ List.mem_cons_self, fun d hd => ?_⟩, by rfl, suits_numbered,
    fun hok => ?_⟩
  · rw [hd] at hread
    cases hread
  · rw [hok] at hdelete
    cases hdelete

end SharedIndex

end TripleIndex
