import TripleIndex.Proofs.Join.Correctness
import TripleIndex.Proofs.Snapshots.Readers
import TripleIndex.Proofs.Snapshots.Searches

/-!
Snapshot isolation. Whatever happens to an index, a reader answers as the index did when the reader was opened.
So what is pulled from a reader, answer by answer, comes out the same whether or not something happens to the
index in between: the answers of a cursor, and the triples of a search.
-/

namespace TripleIndex

/-- A pull from a reader, or an event between two pulls. -/
inductive Move (ι : Type) where
  | pull (request : ι)
  | event (e : Event)
  deriving DecidableEq

def Move.request? {ι : Type} : Move ι → Option ι
  | pull request => some request
  | event _ => none

section Pulls

variable {σ ι ρ : Type} (pull : ι → σ → Reader → ρ × σ × Reader)

/-- Pulls one after the other from one reader, which each of them gives back. -/
def pullAll : σ → Reader → List ι → List ρ
  | _, _, [] => []
  | x, r, request :: requests =>
    let (reply, x, r) := pull request x r
    reply :: pullAll x r requests

/-- Pulls from a reader of an index to which other things happen in between. -/
def SharedIndex.pullAmong (place : Nat) : SharedIndex → σ → List (Move ι) → List ρ
  | _, _, [] => []
  | s, x, .event e :: moves => pullAmong place (s.act e) x moves
  | s, x, .pull request :: moves =>
    let (reply, x, r) := pull request x (s.reader place)
    reply :: pullAmong place (if r.isClosed then s.closeReader place else s) x moves

variable {pull} {s : SharedIndex} {e : Extent} {place : Nat}

theorem SharedIndex.Isolated.closeIf (h : s.Isolated e) {r : Reader}
    (hr : r = s.reader place ∨ r = .closed) :
    let after := if r.isClosed then s.closeReader place else s
    after.Isolated e ∧ after.readers.length = s.readers.length ∧ after.reader place = r := by
  cases hclosed : r.isClosed with
  | true =>
    cases r with
    | opened ix => cases hclosed
    | closed => exact ⟨h.closeReader place, List.length_set .., reader_closeReader_self s place⟩
  | false =>
    rcases hr with hr | rfl
    · exact ⟨h, rfl, hr.symm⟩
    · cases hclosed

/-- What happens between pulls makes no difference to them, as long as nobody else closes their reader. -/
theorem SharedIndex.Isolated.pullAmong_eq (pull : ι → σ → Reader → ρ × σ × Reader)
    (hpull : ∀ request x r, (pull request x r).2.2 = r ∨ (pull request x r).2.2 = .closed)
    (h : s.Isolated e) (hplace : place < s.readers.length) (x : σ) (moves : List (Move ι))
    (hmoves : .event (.closeReader place) ∉ moves) :
    s.pullAmong pull place x moves = pullAll pull x (s.reader place) (moves.filterMap Move.request?) := by
  -- the extent moves, and the reader at the place is the same after every move
  induction moves generalizing s e x with
  | nil => rfl
  | cons move moves ih =>
    have hlater : .event (.closeReader place) ∉ moves := fun hmem => hmoves (List.mem_cons_of_mem _ hmem)
    cases move with
    | event event =>
      have hone := h.outlasts_act event
      obtain ⟨e', hact⟩ := hone.isolated
      have hother : .closeReader place ∉ [event] := by
        intro hmem
        exact hmoves (List.mem_singleton.1 hmem ▸ List.mem_cons_self)
      have hsame := hone.reader place hplace
      have hstill : place < (s.act event).readers.length := by
        rw [hone.readers]
        omega
      rw [if_neg hother] at hsame
      rw [List.filterMap_cons_none rfl, ← hsame]
      exact ih hact hstill x hlater
    | pull request =>
      obtain ⟨hafter, hlength, hreader⟩ := h.closeIf (hpull request x (s.reader place))
      have hrest := ih hafter (by rwa [hlength]) (pull request x (s.reader place)).2.1 hlater
      rw [hreader] at hrest
      exact congrArg ((pull request x (s.reader place)).1 :: ·) hrest

end Pulls

/-! ## Cursors -/

namespace Cursor

/-- A call of a cursor, which goes on with the reader that it finds. -/
def callWith (pull : Pull) : Cursor × Surroundings → Reader → Reply × (Cursor × Surroundings) × Reader :=
  fun (c, s) r =>
    let (reply, c, s) := c.call { s with reader := r } pull
    (reply, (c, s), s.reader)

theorem pullAll_callWith (c : Cursor) (s : Surroundings) (r : Reader) (pulls : List Pull) :
    pullAll callWith (c, s) r pulls = (c.calls { s with reader := r } pulls).1 := by
  induction pulls generalizing c s r with
  | nil => rfl
  | cons pull pulls ih =>
    rw [pullAll, calls]
    exact congrArg ((c.call { s with reader := r } pull).1 :: ·) (ih ..)

theorem reader_pull (c : Cursor) (s : Surroundings) :
    (c.pull s).2.2.reader = s.reader ∨ (c.pull s).2.2.reader = .closed := by
  have hrelease : ∀ c : Cursor, c.release s.reader = s.reader ∨ c.release s.reader = .closed := by
    intro c
    rw [release]
    split
    · exact .inr rfl
    · exact .inl rfl
  unfold pull
  dsimp only
  split
  · exact .inl rfl
  · exact hrelease _
  · exact hrelease _
  · exact hrelease _

theorem reader_hasNext (c : Cursor) (s : Surroundings) :
    (c.hasNext s).2.2.reader = s.reader ∨ (c.hasNext s).2.2.reader = .closed := by
  unfold hasNext
  split
  · exact .inl rfl
  · split
    · exact .inl rfl
    · split
      · exact .inl rfl
      · exact reader_pull c s

theorem reader_callWith (pull : Pull) (x : Cursor × Surroundings) (r : Reader) :
    (callWith pull x r).2.2 = r ∨ (callWith pull x r).2.2 = .closed := by
  obtain ⟨c, s⟩ := x
  have hhasNext := c.reader_hasNext { s with reader := r }
  show (c.call { s with reader := r } pull).2.2.reader = r ∨
    (c.call { s with reader := r } pull).2.2.reader = .closed
  obtain ⟨⟨result, c', s'⟩, hresult⟩ : ∃ outcome, outcome = c.hasNext { s with reader := r } := ⟨_, rfl⟩
  rw [← hresult] at hhasNext
  cases pull with
  | hasNext =>
    rw [call, ← hresult]
    cases result <;> exact hhasNext
  | next =>
    rw [call, next, ← hresult]
    cases result with
    | error f => exact hhasNext
    | ok more =>
      dsimp only
      cases c'.lookahead <;> exact hhasNext

end Cursor

/-! ## Searches -/

theorem Finder.pullAll_pull (s : Finder) (r : Reader) (requests : List Unit) :
    pullAll (fun _ => Finder.pull) s r requests = (s.remaining r).replies requests.length := by
  induction requests generalizing s r with
  | nil => rfl
  | cons request requests ih =>
    obtain ⟨hreply, hrest, -⟩ := s.pull_eq r
    rw [List.length_cons, Found.replies, ← hreply, ← hrest, ← ih]
    rfl

/-- The replies of a search whose first pull is made now. It opens a reader unless the pattern is refused,
and the later pulls are made from this reader. -/
def SharedIndex.searchAmong (s : SharedIndex) (registry : Registry) (size : PageSize) (p : Pattern)
    (graph : Term) (moves : List (Move Unit)) : List (Except Fault (Option Pattern)) :=
  match compile registry p (some graph) with
  | .error f => .error f :: (moves.filterMap Move.request?).map fun _ => .ok none
  | .ok f =>
    s.openReader.pullAmong (fun _ => Finder.pull) s.readers.length
      (.begin p f size (s.content.size + 1)) (.pull () :: moves)

theorem SharedIndex.Isolated.searchAmong_eq {s : SharedIndex} {e : Extent} (h : s.Isolated e)
    (registry : Registry) (size : PageSize) (p : Pattern) (graph : Term) {moves : List (Move Unit)}
    (hmoves : .event (.closeReader s.readers.length) ∉ moves) :
    s.searchAmong registry size p graph moves =
      (findIn registry s.content size p graph).replies ((moves.filterMap Move.request?).length + 1) := by
  rw [searchAmong, findIn]
  cases compile registry p (some graph) with
  | error f =>
    dsimp only
    rw [Found.replies_failed, List.map_const']
  | ok f =>
    have hplace : s.readers.length < s.openReader.readers.length := by
      simp [SharedIndex.openReader]
    have hpulls := h.openReader.pullAmong_eq (fun _ : Unit => Finder.pull)
      (fun _ x r => (x.pull_eq r).2.2) hplace (.begin p f size (s.content.size + 1)) (.pull () :: moves)
      (by simpa using hmoves)
    dsimp only
    rw [hpulls, reader_openReader, Finder.pullAll_pull, Finder.remaining_begin]
    rfl

/-! ## Isolation -/

/-- A reader that is opened after some events answers as an index that nobody reads does after them, until it
is closed. Cursors with this reader, and searches that begin in its place, go on as if nothing happened. -/
theorem SharedIndex.snapshot_isolation (schema : Schema) (before : List Event) :
    let now := (SharedIndex.empty schema).run before
    let frozen := (Index.empty schema).replay before
    let place := before.count .openReader
    (∀ after : List Event, ((SharedIndex.empty schema).run (before ++ .openReader :: after)).reader place =
      if .closeReader place ∈ after then .closed else .opened frozen) ∧
    (∀ (c : Cursor) (s : Surroundings) (moves : List (Move Pull)),
      .event (.closeReader place) ∉ moves →
        now.openReader.pullAmong Cursor.callWith place (c, s) moves =
          (c.calls { s with reader := .opened frozen } (moves.filterMap Move.request?)).1) ∧
    ∀ (registry : Registry) (size : PageSize) (p : Pattern) (graph : Term) (moves : List (Move Unit)),
      .event (.closeReader place) ∉ moves →
        now.searchAmong registry size p graph moves =
          (findIn registry frozen size p graph).replies ((moves.filterMap Move.request?).length + 1) := by
  intro now frozen place
  obtain ⟨⟨e, hnow⟩, hcontent, hlength, -⟩ := (isolated_empty schema).outlasts_run before
  -- Opening does not change the content, and nothing that comes later touches the place it opened.
  have hfrozen : now.content = frozen := by
    rw [content_empty] at hcontent
    exact hcontent
  have hplace : now.readers.length = place := hlength.trans (Nat.zero_add _)
  have hopen : place < now.openReader.readers.length := by
    rw [← hplace]
    simp [SharedIndex.openReader]
  have hreader : now.openReader.reader place = .opened frozen := by
    rw [← hplace, ← hfrozen]
    exact reader_openReader now
  refine ⟨fun after => ?_, fun c s moves hmoves => ?_, fun registry size p graph moves hmoves => ?_⟩
  · have hrun : (SharedIndex.empty schema).run (before ++ .openReader :: after) =
        now.openReader.run after := by
      rw [SharedIndex.run, List.foldl_append, List.foldl_cons]
      rfl
    rw [hrun, (hnow.openReader.outlasts_run after).reader place hopen, hreader]
  · rw [hnow.openReader.pullAmong_eq Cursor.callWith Cursor.reader_callWith hopen (c, s) moves hmoves, hreader,
      Cursor.pullAll_callWith]
  · rw [← hplace] at hmoves
    rw [hnow.searchAmong_eq registry size p graph hmoves, hfrozen]

/-- Two documents, both with `b` as their object. -/
def acquainted : List Event :=
  [.write (Cursor.acquaintance "1" "<urn:a>" "<urn:b>"), .write (Cursor.acquaintance "2" "<urn:b>" "<urn:b>")]

/-- Everything is removed between two pulls, and something else is written. -/
def pullsAroundChanges {ι : Type} (request : ι) : List (Move ι) :=
  [.pull request, .event (.delete []), .event .openReader,
    .event (.write (Cursor.acquaintance "3" "<urn:c>" "<urn:b>")), .pull request, .pull request]

def acquaintanceCursor (ix : Index) : Cursor where
  steps := [.evaluate .default (.opened ix) (some (.iri "urn:g")) (Cursor.knows "x" "y") 0]
  size := .rows 1 (by decide)
  owns := true
  stack := []
  lookahead := none
  fault := none
  started := false
  done := false

theorem SharedIndex.snapshot_isolation_emptied :
    let now := (SharedIndex.empty Schema.triples).run acquainted
    let frozen := (Index.empty Schema.triples).replay acquainted
    (((SharedIndex.empty Schema.triples).run
      (acquainted ++ .openReader :: [.delete [], .closeReader 1])).reader 0).size.toOption = some 2 ∧
    .event (.closeReader 0) ∉ pullsAroundChanges Pull.next ∧
    (now.openReader.pullAmong Cursor.callWith 0
      (acquaintanceCursor frozen, ⟨.closed, .fresh none, false⟩) (pullsAroundChanges .next)).map Reply.answer? =
        [some [("x", .iri "urn:a"), ("y", .iri "urn:b")], some [("x", .iri "urn:b"), ("y", .iri "urn:b")],
          none] ∧
    .event (.closeReader 0) ∉ pullsAroundChanges () ∧
    (now.searchAmong .default (.rows 1 (by decide)) (Cursor.knows "x" "y") (.iri "urn:g")
      (pullsAroundChanges ())).map Except.toOption =
        [some (some ⟨.iri "urn:a", .iri "urn:knows", .iri "urn:b"⟩),
          some (some ⟨.iri "urn:b", .iri "urn:knows", .iri "urn:b"⟩), some none, some none] := by
  intro now frozen
  obtain ⟨hreader, hcursor, hsearch⟩ := snapshot_isolation Schema.triples acquainted
  have hcount : acquainted.count .openReader = 0 := by decide +kernel
  rw [hcount] at hreader hcursor hsearch
  have hcalls : .event (.closeReader 0) ∉ pullsAroundChanges Pull.next := by decide +kernel
  have hpulls : .event (.closeReader 0) ∉ pullsAroundChanges () := by decide +kernel
  refine ⟨?_, hcalls, ?_, hpulls, ?_⟩
  · rw [hreader]
    decide +kernel
  · rw [hcursor _ _ _ hcalls]
    decide +kernel
  · rw [hsearch _ _ _ _ _ hpulls]
    decide +kernel

end TripleIndex
