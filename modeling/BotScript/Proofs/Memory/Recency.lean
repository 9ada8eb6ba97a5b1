import BotScript.Proofs.Memory.Sessions
import Mathlib.Data.Finset.Card
import Mathlib.Data.List.Dedup

/-! Which sessions are forgotten. A host visits and drops sessions and writes to the stores that its
visits have returned, also to those whose session is gone by then. A guestbook notes who was visited
when and what was written to which store; the sessions that are kept, their order and their memories
are those that the guestbook tells. -/

namespace BotScript

/-- A write to a store. -/
inductive Store.Write
  | set (key : String) (datum : Datum)
  | append (key : String) (datum : Datum)

namespace Store

/-- The store behind a write. -/
def written (store : Store) : Write → Store
  | .set key datum => store.set key datum
  | .append key datum => store.append key datum

/-- The store that some writes make of an empty one. -/
def ofWrites (writes : List Write) : Store :=
  writes.foldl written .empty

end Store

/-- A store that a visit has returned: the session that was visited, and the visit that made the
store. Visits are counted from zero. -/
structure Ticket where
  session : String
  maker : Nat
deriving DecidableEq

namespace Ticket

/-- The ticket of the last visit of a session. -/
def last? (tickets : List Ticket) (id : String) : Option Ticket :=
  (tickets.filter (·.session = id)).getLast?

/-- The ticket for the next visit of a session. A live one has the store of its last visit, any
other one a new store. -/
def next (tickets : List Ticket) (live : Bool) (id : String) : Ticket :=
  let new : Ticket := ⟨id, tickets.length⟩
  if live then (last? tickets id).getD new else new

/-- Of two sessions the first one was visited last before the other one was. -/
def Earlier (tickets : List Ticket) (id other : String) : Prop :=
  ∃ front back, tickets.map session = front ++ back ∧ id ∈ front ∧ id ∉ back ∧ other ∈ back

end Ticket

/-- What a host does with its sessions. -/
inductive SessionCall
  | visit (id : String)
  | drop (id : String)
  | list
  /-- Something is written to the store that a visit has returned. -/
  | write (visit : Nat) (write : Store.Write)

/-- What the host is told. -/
inductive SessionReply
  | store (ticket : Ticket) (content : Store)
  | dropped (live : Bool)
  | listed (ids : List String)
  | written

/-- The replies to some calls, one after the other, and the state behind them. -/
def SessionCall.performAll {σ : Type} (perform : σ → SessionCall → SessionReply × σ) :
    σ → List SessionCall → List SessionReply × σ
  | state, [] => ([], state)
  | state, call :: rest =>
    let (reply, state) := perform state call
    let (replies, state) := performAll perform state rest
    (reply :: replies, state)

/-- Sessions, and the tickets for the stores that have been returned. -/
structure Desk where
  sessions : Sessions
  tickets : List Ticket

namespace Desk

/-- The store of a ticket still is that of its session. -/
def holds (desk : Desk) (ticket : Ticket) : Bool :=
  desk.sessions.isLive ticket.session && Ticket.last? desk.tickets ticket.session = some ticket

/-- The reply to a call, and the sessions behind it. What is written to a store that no session has
any more is seen in none. -/
def perform (desk : Desk) : SessionCall → SessionReply × Desk
  | .visit id =>
    let ticket := Ticket.next desk.tickets (desk.sessions.isLive id) id
    let sessions := desk.sessions.visit id
    (.store ticket (sessions.store id), ⟨sessions, desk.tickets ++ [ticket]⟩)
  | .drop id =>
    (.dropped (desk.sessions.isLive id), { desk with sessions := desk.sessions.drop id })
  | .list => (.listed desk.sessions.ids, desk)
  | .write visit write =>
    match desk.tickets[visit]? with
    | none => (.written, desk)
    | some ticket =>
      if desk.holds ticket then
        let store := (desk.sessions.store ticket.session).written write
        (.written, { desk with sessions := desk.sessions.write ticket.session store })
      else (.written, desk)

end Desk

/-- Visits, the sessions that are live, and everything that was ever written, each write with the
ticket of its store. -/
structure Guestbook where
  tickets : List Ticket
  live : Finset String
  writes : List (Ticket × Store.Write)

namespace Guestbook

/-- The live sessions, the one whose last visit is oldest first. -/
def order (book : Guestbook) : List String :=
  (book.tickets.map Ticket.session).dedup.filter (· ∈ book.live)

/-- What has been written to a store since it was made. -/
def content (book : Guestbook) (ticket : Ticket) : Store :=
  .ofWrites ((book.writes.filter (·.1 = ticket)).map Prod.snd)

/-- The live sessions behind a visit. A new one takes the place of the one whose last visit is
oldest when there is no more room. -/
def welcome (limit : Nat) (book : Guestbook) (id : String) : Finset String :=
  if id ∈ book.live then book.live
  else if book.live.card < limit then insert id book.live
  else insert id (book.live.filter (book.order.head? ≠ some ·))

/-- The reply to a call, and the guestbook behind it. -/
def perform (limit : Nat) (book : Guestbook) : SessionCall → SessionReply × Guestbook
  | .visit id =>
    let ticket := Ticket.next book.tickets (id ∈ book.live) id
    (.store ticket (book.content ticket),
      { book with tickets := book.tickets ++ [ticket], live := book.welcome limit id })
  | .drop id => (.dropped (id ∈ book.live), { book with live := book.live.erase id })
  | .list => (.listed book.order, book)
  | .write visit write =>
    match book.tickets[visit]? with
    | none => (.written, book)
    | some ticket => (.written, { book with writes := book.writes ++ [(ticket, write)] })

/-- What the live sessions always are. -/
structure Lawful (limit : Nat) (book : Guestbook) : Prop where
  distinct : book.order.Nodup
  live : ∀ id, id ∈ book.order ↔ id ∈ book.live
  recent : book.order.Pairwise (Ticket.Earlier book.tickets)
  room : book.order.length ≤ limit

/-- What a call does with live sessions and with the others. -/
structure Fair (limit : Nat) (book : Guestbook) (call : SessionCall) : Prop where
  /-- The session that is visited is never the one that leaves. -/
  stays : ∀ id, call = .visit id → id ∈ (book.perform limit call).2.live
  /-- Only a visit makes a session live. -/
  joins : ∀ id ∉ book.live, id ∈ (book.perform limit call).2.live → call = .visit id
  /-- A session leaves when it is dropped, or when another one comes that finds no room and its own
  last visit is the oldest. -/
  leaves : ∀ id ∈ book.live, id ∉ (book.perform limit call).2.live →
    call = .drop id ∨ ∃ other, call = .visit other ∧ other ∉ book.live ∧ book.live.card = limit ∧
      book.order.head? = some id
  /-- A live session has the store that its last visit has returned, with everything that was
  written to it. -/
  returns : ∀ id ∈ book.live, call = .visit id →
      ∃ ticket, Ticket.last? book.tickets id = some ticket ∧
    (book.perform limit call).1 = .store ticket (book.content ticket)
  /-- Any other session has an empty store that no visit has returned yet. -/
  opens : ∀ id ∉ book.live, call = .visit id → ∃ ticket ∉ book.tickets,
    ticket.session = id ∧ (book.perform limit call).1 = .store ticket .empty

/-- Another write to a store is seen in that store alone. -/
theorem content_append (tickets : List Ticket) (live : Finset String)
    (writes : List (Ticket × Store.Write)) (ticket other : Ticket) (write : Store.Write) :
    content ⟨tickets, live, writes ++ [(ticket, write)]⟩ other =
      if ticket = other then (content ⟨tickets, live, writes⟩ other).written write
      else content ⟨tickets, live, writes⟩ other := by
  unfold content Store.ofWrites
  by_cases same : ticket = other <;> simp [same]

/-! ## Visits in their order -/

/-- Another visit moves its name to the end. -/
private theorem dedup_concat (names : List String) (name : String) :
    (names ++ [name]).dedup = names.dedup.filter (· ≠ name) ++ [name] := by
  induction names with
  | nil => rfl
  | cons first rest ih =>
    by_cases again : first ∈ rest
    · rw [List.cons_append, List.dedup_cons_of_mem (List.mem_append_left _ again), ih,
        List.dedup_cons_of_mem again]
    · by_cases same : first = name
      · subst same
        rw [List.cons_append, List.dedup_cons_of_mem (by simp), ih, List.dedup_cons_of_notMem again]
        simp
      · have new : first ∉ rest ++ [name] := by simp [again, same]
        rw [List.cons_append, List.dedup_cons_of_notMem new, ih, List.dedup_cons_of_notMem again]
        simp [same]

theorem order_nodup (book : Guestbook) : book.order.Nodup :=
  (List.nodup_dedup _).filter _

/-- Of two live sessions in a row the first one was visited last before the other one was. -/
theorem order_pairwise (book : Guestbook) : book.order.Pairwise (Ticket.Earlier book.tickets) := by
  unfold order Ticket.Earlier
  refine List.Pairwise.filter _ ?_
  generalize book.tickets.map Ticket.session = names
  induction names with
  | nil => exact .nil
  | cons first rest ih =>
    have later : rest.dedup.Pairwise fun id other =>
        ∃ front back, first :: rest = front ++ back ∧ id ∈ front ∧ id ∉ back ∧ other ∈ back := by
      refine ih.imp ?_
      rintro id other ⟨front, back, rfl, member, gone, among⟩
      exact ⟨first :: front, back, rfl, List.mem_cons_of_mem _ member, gone, among⟩
    by_cases again : first ∈ rest
    · rwa [List.dedup_cons_of_mem again]
    · rw [List.dedup_cons_of_notMem again]
      refine .cons (fun other among => ?_) later
      exact ⟨[first], rest, rfl, List.mem_cons_self, again, List.mem_dedup.mp among⟩

end Guestbook

namespace Ticket

variable {tickets : List Ticket} {ticket : Ticket} {id other : String}

theorem mem_of_last? (last : last? tickets id = some ticket) :
    ticket ∈ tickets ∧ ticket.session = id := by
  have member := List.mem_filter.mp (List.mem_of_getLast? last)
  exact ⟨member.1, of_decide_eq_true member.2⟩

theorem last?_concat (tickets : List Ticket) (ticket : Ticket) (id : String) :
    last? (tickets ++ [ticket]) id = if ticket.session = id then some ticket
      else last? tickets id := by
  unfold last?
  by_cases same : ticket.session = id <;> simp [same]

theorem next_session (tickets : List Ticket) (live : Bool) (id : String) :
    (next tickets live id).session = id := by
  cases last : last? tickets id with
  | none => cases live <;> simp [next, last]
  | some ticket =>
    have named := (mem_of_last? last).2
    cases live <;> simp [next, last, named]

theorem next_known (tickets : List Ticket) (live : Bool) (id : String) :
    next tickets live id ∈ tickets ∨ next tickets live id = ⟨id, tickets.length⟩ := by
  cases live with
  | false => exact .inr rfl
  | true =>
    cases last : last? tickets id with
    | none => simp [next, last]
    | some ticket => simp [next, last, (mem_of_last? last).1]

end Ticket

namespace Guestbook

variable {limit : Nat} {book : Guestbook} {ticket : Ticket} {id : String}

/-- Every live session has been visited. -/
def Visited (book : Guestbook) : Prop :=
  ∀ id ∈ book.live, id ∈ book.tickets.map Ticket.session

theorem mem_order (visited : book.Visited) : id ∈ book.order ↔ id ∈ book.live := by
  unfold order
  rw [List.mem_filter, List.mem_dedup, decide_eq_true_eq]
  exact ⟨And.right, fun live => ⟨visited id live, live⟩⟩

theorem order_length (visited : book.Visited) : book.order.length = book.live.card := by
  have same : book.order.toFinset = book.live := by
    ext id
    rw [List.mem_toFinset, mem_order visited]
  rw [← same, List.toFinset_card_of_nodup book.order_nodup]

theorem self_mem_welcome (limit : Nat) (book : Guestbook) (id : String) :
    id ∈ book.welcome limit id := by
  unfold welcome
  split_ifs with live
  · exact live
  · exact Finset.mem_insert_self _ _
  · exact Finset.mem_insert_self _ _

theorem eq_or_mem_of_welcome {other : String} (admitted : other ∈ book.welcome limit id) :
    other = id ∨ other ∈ book.live := by
  unfold welcome at admitted
  split_ifs at admitted
  · exact .inr admitted
  · exact Finset.mem_insert.mp admitted
  · exact (Finset.mem_insert.mp admitted).imp_right fun stays => (Finset.mem_filter.mp stays).1

/-- Only the first in the order may leave, and only for a new session that finds no room. -/
theorem leaves_of_welcome {other : String} (live : other ∈ book.live)
    (gone : other ∉ book.welcome limit id) :
    id ∉ book.live ∧ ¬book.live.card < limit ∧ book.order.head? = some other := by
  unfold welcome at gone
  split_ifs at gone with known more
  · exact absurd live gone
  · exact absurd (Finset.mem_insert_of_mem live) gone
  · refine ⟨known, more, ?_⟩
    by_contra apart
    exact gone (Finset.mem_insert_of_mem (Finset.mem_filter.mpr ⟨live, apart⟩))

theorem live_write (limit : Nat) (book : Guestbook) (visit : Nat) (write : Store.Write) :
    (book.perform limit (.write visit write)).2.live = book.live := by
  cases listed : book.tickets[visit]? <;> simp only [perform, listed]

/-- Of fewer live sessions the others keep their order. -/
theorem order_filter (book : Guestbook) (stays : String → Prop) [DecidablePred stays] :
    order { book with live := book.live.filter stays } = book.order.filter stays := by
  unfold order
  rw [List.filter_filter]
  refine List.filter_congr fun id _ => ?_
  by_cases live : id ∈ book.live <;> simp [live]

/-- A session that is visited comes last. -/
theorem order_visit (book : Guestbook) (named : ticket.session = id) {live : Finset String}
    (admitted : id ∈ live) :
    order { book with tickets := book.tickets ++ [ticket], live } =
      order { book with live := live.erase id } ++ [id] := by
  have others : ((book.tickets.map Ticket.session).dedup.filter (· ≠ id)).filter (· ∈ live) =
      (book.tickets.map Ticket.session).dedup.filter (· ∈ live.erase id) := by
    rw [List.filter_filter]
    refine List.filter_congr fun other _ => ?_
    rw [Bool.eq_iff_iff]
    simp [and_comm]
  unfold order
  rw [List.map_append, List.map_singleton, named, dedup_concat, List.filter_append, others]
  simp [admitted]

/-- Nobody has to leave unless there is no room for one more. -/
theorem order_welcome_of_room (named : ticket.session = id)
    (room : id ∈ book.live ∨ book.live.card < limit) :
    order { book with tickets := book.tickets ++ [ticket], live := book.welcome limit id } =
      book.order.filter (· ≠ id) ++ [id] := by
  have admitted : book.welcome limit id = insert id book.live := by
    unfold welcome
    by_cases known : id ∈ book.live
    · rw [if_pos known, Finset.insert_eq_of_mem known]
    · rw [if_neg known, if_pos (room.resolve_left known)]
  rw [admitted, order_visit book named (Finset.mem_insert_self _ _)]
  have left : (insert id book.live).erase id = book.live.filter (· ≠ id) := by
    ext other
    by_cases same : other = id <;> simp [same]
  rw [left, order_filter]

/-- When there is no room, the first in the order leaves. -/
theorem order_welcome_of_full (named : ticket.session = id) (new : id ∉ book.live)
    (full : ¬book.live.card < limit) :
    order { book with tickets := book.tickets ++ [ticket], live := book.welcome limit id } =
      book.order.tail ++ [id] := by
  have admitted : book.welcome limit id =
      insert id (book.live.filter (book.order.head? ≠ some ·)) := by
    rw [welcome, if_neg new, if_neg full]
  have aside : id ∉ book.live.filter (book.order.head? ≠ some ·) :=
    fun member => new (Finset.mem_filter.mp member).1
  rw [admitted, order_visit book named (Finset.mem_insert_self _ _),
    Finset.erase_insert aside, order_filter]
  have distinct := book.order_nodup
  cases order : book.order with
  | nil => rfl
  | cons oldest others =>
    rw [order] at distinct
    have unlike : ∀ other ∈ others, ¬oldest = other := by
      rintro other member rfl
      exact (List.nodup_cons.mp distinct).1 member
    simpa using unlike

/-- The order behind a visit: of all the sessions, the visited one behind the others, only the last
ones are kept. -/
theorem order_welcome (visited : book.Visited) (named : ticket.session = id)
    (room : book.live.card ≤ limit) (roomy : 1 ≤ limit) :
    order { book with tickets := book.tickets ++ [ticket], live := book.welcome limit id } =
      (book.order.filter (· ≠ id) ++ [id]).drop
        ((book.order.filter (· ≠ id) ++ [id]).length - limit) := by
  have length := order_length visited
  by_cases known : id ∈ book.live
  · have fewer : (book.order.filter (· ≠ id)).length < book.order.length :=
      List.length_filter_lt_length_iff_exists.mpr ⟨id, (mem_order visited).mpr known, by simp⟩
    have fits : (book.order.filter (· ≠ id) ++ [id]).length - limit = 0 := by
      rw [List.length_append, List.length_singleton]
      omega
    rw [order_welcome_of_room named (.inl known), fits, List.drop_zero]
  · have all : book.order.filter (· ≠ id) = book.order := by
      refine List.filter_eq_self.mpr fun other member => ?_
      rw [decide_eq_true_eq]
      rintro rfl
      exact known ((mem_order visited).mp member)
    rw [all, List.length_append, List.length_singleton, length]
    by_cases more : book.live.card < limit
    · rw [order_welcome_of_room named (.inr more), all, Nat.sub_eq_zero_of_le more, List.drop_zero]
    · have one : book.live.card + 1 - limit = 1 := by omega
      have crowded : book.order ≠ [] := by
        intro empty
        rw [empty] at length
        simp only [List.length_nil] at length
        omega
      rw [order_welcome_of_full named known more, one, List.drop_one,
        List.tail_append_of_ne_nil crowded]

end Guestbook

namespace Sessions

variable {sessions : Sessions} {id other : String}

theorem ids_visit (sessions : Sessions) (id : String) :
    (sessions.visit id).ids =
      (sessions.ids.filter (· ≠ id) ++ [id]).drop
        ((sessions.ids.filter (· ≠ id) ++ [id]).length - sessions.limit) := by
  have length : (sessions.opened id).stores.length =
      (sessions.ids.filter (· ≠ id) ++ [id]).length := by
    rw [← ids_opened]
    exact (List.length_map Prod.fst).symm
  rw [← length, ← ids_opened]
  exact List.map_drop

/-- There is always room for the session that is visited. -/
theorem mem_ids_visit (sessions : Sessions) (id : String) : id ∈ (sessions.visit id).ids := by
  have roomy := sessions.roomy
  have others : (sessions.ids.filter (· ≠ id) ++ [id]).length - sessions.limit ≤
      (sessions.ids.filter (· ≠ id)).length := by
    rw [List.length_append, List.length_singleton]
    omega
  rw [ids_visit, List.drop_append_of_le_length others]
  exact List.mem_append_right _ (List.mem_singleton_self id)

/-- The sessions that are kept when one is visited keep their memories; the visited one has a new
memory when it had none. -/
theorem find?_visit (distinct : sessions.ids.Nodup) (kept : other ∈ (sessions.visit id).ids) :
    (sessions.visit id).find? other = if id = other then some (sessions.store id)
      else sessions.find? other := by
  have apart : Entries.Distinct (sessions.opened id).stores := by
    change (sessions.opened id).ids.Nodup
    rw [ids_opened]
    exact List.Nodup.append (distinct.filter _) (List.nodup_singleton id) (by simp)
  rw [← find?_opened]
  exact Entries.get?_drop apart kept

end Sessions

/-- The sessions of a desk are those that the guestbook tells. -/
structure Desk.Follows (limit : Nat) (desk : Desk) (book : Guestbook) : Prop where
  tickets : desk.tickets = book.tickets
  limited : desk.sessions.limit = limit
  ids : desk.sessions.ids = book.order
  kept : ∀ id ∈ book.live, ∃ ticket, Ticket.last? book.tickets id = some ticket ∧
    desk.sessions.find? id = some (book.content ticket)
  room : book.live.card ≤ limit
  known : ∀ entry ∈ book.writes, entry.1 ∈ book.tickets
  numbered : ∀ ticket ∈ book.tickets, ticket.maker < book.tickets.length

namespace Desk.Follows

variable {limit : Nat} {desk : Desk} {book : Guestbook} {ticket : Ticket} {id : String}

theorem visited (follows : desk.Follows limit book) : book.Visited := by
  intro id live
  obtain ⟨ticket, last, -⟩ := follows.kept id live
  obtain ⟨member, named⟩ := Ticket.mem_of_last? last
  exact List.mem_map.mpr ⟨ticket, member, named⟩

theorem isLive_iff (follows : desk.Follows limit book) :
    desk.sessions.isLive id ↔ id ∈ book.live := by
  rw [← Guestbook.mem_order follows.visited, ← follows.ids]
  exact Entries.get?_isSome_iff _ _

theorem isLive_eq (follows : desk.Follows limit book) (id : String) :
    desk.sessions.isLive id = decide (id ∈ book.live) :=
  Bool.eq_iff_iff.mpr (follows.isLive_iff.trans decide_eq_true_iff.symm)

/-- Nothing has been written to a store that is not made yet. -/
theorem content_new (follows : desk.Follows limit book) (id : String) :
    book.content ⟨id, book.tickets.length⟩ = .empty := by
  have unwritten : book.writes.filter (·.1 = ⟨id, book.tickets.length⟩) = [] := by
    refine List.filter_eq_nil_iff.mpr fun entry member same => ?_
    have known := follows.numbered _ (follows.known entry member)
    rw [of_decide_eq_true same] at known
    exact Nat.lt_irrefl _ known
  rw [Guestbook.content, unwritten]
  rfl

/-- The store that a visit returns has everything that was written to the store of its ticket. -/
theorem store_eq (follows : desk.Follows limit book) (id : String) :
    desk.sessions.store id = book.content (Ticket.next book.tickets (id ∈ book.live) id) := by
  rw [Sessions.store_eq]
  by_cases live : id ∈ book.live
  · obtain ⟨ticket, last, found⟩ := follows.kept id live
    simp [Ticket.next, live, last, found]
  · have gone : desk.sessions.find? id = none := by
      rw [← Option.not_isSome_iff_eq_none]
      exact fun found => live (follows.isLive_iff.mp found)
    simp [Ticket.next, live, gone, follows.content_new]

theorem dropped (follows : desk.Follows limit book) (id : String) :
    Follows limit { desk with sessions := desk.sessions.drop id }
      { book with live := book.live.erase id } where
  tickets := follows.tickets
  limited := follows.limited
  ids := by
    have left : book.live.erase id = book.live.filter (· ≠ id) := by
      ext other
      simp [and_comm]
    rw [left, Guestbook.order_filter, ← follows.ids]
    exact Entries.keys_erase _ _
  kept := by
    intro other live
    obtain ⟨ne, live⟩ := Finset.mem_erase.mp live
    obtain ⟨ticket, last, found⟩ := follows.kept other live
    exact ⟨ticket, last, by rw [Sessions.find?_drop, if_neg ne.symm, found]; rfl⟩
  room := (Finset.card_le_card (Finset.erase_subset _ _)).trans follows.room
  known := follows.known
  numbered := follows.numbered

theorem holds_iff (follows : desk.Follows limit book) :
    desk.holds ticket ↔ ticket.session ∈ book.live ∧
    Ticket.last? book.tickets ticket.session = some ticket := by
  rw [holds, Bool.and_eq_true, follows.isLive_iff, decide_eq_true_iff, follows.tickets]

/-- A write is seen in the session that still has the store, and in no other one. -/
theorem wrote (follows : desk.Follows limit book) (visit : Nat) (write : Store.Write) :
    Follows limit (desk.perform (.write visit write)).2
      (book.perform limit (.write visit write)).2 := by
  cases listed : book.tickets[visit]? with
  | none => simpa only [Desk.perform, Guestbook.perform, follows.tickets, listed] using follows
  | some ticket =>
    have known : ∀ entry ∈ book.writes ++ [(ticket, write)], entry.1 ∈ book.tickets :=
      List.forall_mem_append.mpr ⟨follows.known,
        List.forall_mem_singleton.mpr (List.mem_of_getElem? listed)⟩
    by_cases holds : desk.holds ticket
    · simp only [Desk.perform, Guestbook.perform, follows.tickets, listed, if_pos holds]
      obtain ⟨present, own⟩ := follows.holds_iff.mp holds
      refine ⟨rfl, follows.limited, ?_, fun id live => ?_, follows.room, known, follows.numbered⟩
      · refine (Entries.keys_put _ _ _).trans ((if_pos ?_).trans follows.ids)
        exact (Entries.get?_isSome_iff _ _).mp (follows.isLive_iff.mpr present)
      · obtain ⟨other, last, found⟩ := follows.kept id live
        refine ⟨other, last, ?_⟩
        rw [Guestbook.content_append, Sessions.find?_write]
        by_cases same : ticket.session = id
        · subst same
          obtain rfl := Option.some.inj (own.symm.trans last)
          rw [if_pos rfl, if_pos rfl, Sessions.store_eq, found]
          rfl
        · have apart : ticket ≠ other := by
            rintro rfl
            exact same (Ticket.mem_of_last? last).2
          rw [if_neg same, if_neg apart]
          exact found
    · simp only [Desk.perform, Guestbook.perform, follows.tickets, listed, if_neg holds]
      refine ⟨follows.tickets, follows.limited, follows.ids, fun id live => ?_, follows.room, known,
        follows.numbered⟩
      obtain ⟨other, last, found⟩ := follows.kept id live
      have apart : ticket ≠ other := by
        rintro rfl
        have named := (Ticket.mem_of_last? last).2
        exact holds (follows.holds_iff.mpr ⟨named ▸ live, named.symm ▸ last⟩)
      refine ⟨other, last, ?_⟩
      rw [Guestbook.content_append, if_neg apart]
      exact found

/-- A visit leads to the sessions and to the order that the guestbook tells. -/
theorem visit (follows : desk.Follows limit book) (roomy : 1 ≤ limit) (id : String) :
    Follows limit (desk.perform (.visit id)).2 (book.perform limit (.visit id)).2 := by
  have named := Ticket.next_session book.tickets (id ∈ book.live) id
  have distinct : desk.sessions.ids.Nodup := follows.ids ▸ book.order_nodup
  have ids : (desk.sessions.visit id).ids = (book.perform limit (.visit id)).2.order := by
    rw [Sessions.ids_visit, follows.ids, follows.limited]
    exact (Guestbook.order_welcome follows.visited named follows.room roomy).symm
  have content := follows.store_eq id
  simp only [Desk.perform, Guestbook.perform, follows.tickets, follows.isLive_eq] at ids ⊢
  generalize new : Ticket.next book.tickets (id ∈ book.live) id = ticket at *
  have visited : Guestbook.Visited
      ⟨book.tickets ++ [ticket], book.welcome limit id, book.writes⟩ := by
    intro other admitted
    rw [List.map_append, List.mem_append, List.map_singleton, List.mem_singleton, named]
    exact (Guestbook.eq_or_mem_of_welcome admitted).symm.imp_left (follows.visited other)
  refine ⟨rfl, follows.limited, ids, fun other admitted => ?_, ?_, fun entry member => ?_, ?_⟩
  · have present : other ∈ (desk.sessions.visit id).ids :=
      ids ▸ (Guestbook.mem_order visited).mpr admitted
    rw [Ticket.last?_concat, named, Sessions.find?_visit distinct present]
    by_cases same : id = other
    · exact ⟨ticket, if_pos same, (if_pos same).trans (congrArg some content)⟩
    · rw [if_neg same, if_neg same]
      exact follows.kept other ((Guestbook.eq_or_mem_of_welcome admitted).resolve_left
        (Ne.symm same))
  · rw [← Guestbook.order_length visited]
    refine (congrArg List.length ids).symm.trans_le ?_
    rw [Sessions.ids_visit, List.length_drop, follows.limited]
    omega
  · exact List.mem_append_left _ (follows.known entry member)
  · intro other member
    rw [List.length_append, List.length_singleton]
    obtain old | rfl := (List.mem_append.mp member).imp_right List.mem_singleton.mp
    · exact Nat.lt_succ_of_lt (follows.numbered other old)
    · rw [← new]
      obtain old | made := Ticket.next_known book.tickets (id ∈ book.live) id
      · exact Nat.lt_succ_of_lt (follows.numbered _ old)
      · exact made ▸ Nat.lt_succ_self _

/-- A call is answered as the guestbook tells, and leads to what it tells. -/
theorem perform (follows : desk.Follows limit book) (roomy : 1 ≤ limit) (call : SessionCall) :
    (desk.perform call).1 = (book.perform limit call).1 ∧
      Follows limit (desk.perform call).2 (book.perform limit call).2 := by
  cases call with
  | visit id =>
    refine ⟨?_, follows.visit roomy id⟩
    have store : (desk.sessions.visit id).store id = desk.sessions.store id := by
      have distinct : desk.sessions.ids.Nodup := follows.ids ▸ book.order_nodup
      rw [Sessions.store_eq, Sessions.find?_visit distinct (Sessions.mem_ids_visit _ _), if_pos rfl]
      rfl
    simp only [Desk.perform, Guestbook.perform, follows.tickets, follows.isLive_eq, store,
      follows.store_eq]
  | drop id => exact ⟨congrArg SessionReply.dropped (follows.isLive_eq id), follows.dropped id⟩
  | list => exact ⟨congrArg SessionReply.listed follows.ids, follows⟩
  | write visit write =>
    refine ⟨?_, follows.wrote visit write⟩
    simp only [Desk.perform, Guestbook.perform]
    split <;> split <;> try split
    all_goals rfl

/-- So it is for any number of calls. -/
theorem performAll (follows : desk.Follows limit book) (roomy : 1 ≤ limit)
    (calls : List SessionCall) :
    (SessionCall.performAll Desk.perform desk calls).1 =
        (SessionCall.performAll (Guestbook.perform limit) book calls).1 ∧
      Follows limit (SessionCall.performAll Desk.perform desk calls).2
        (SessionCall.performAll (Guestbook.perform limit) book calls).2 := by
  induction calls generalizing desk book with
  | nil => exact ⟨rfl, follows⟩
  | cons call rest ih =>
    obtain ⟨reply, next⟩ := follows.perform roomy call
    obtain ⟨replies, last⟩ := ih next
    exact ⟨congrArg₂ List.cons reply replies, last⟩

theorem lawful (follows : desk.Follows limit book) : book.Lawful limit where
  distinct := book.order_nodup
  live _ := Guestbook.mem_order follows.visited
  recent := book.order_pairwise
  room := (Guestbook.order_length follows.visited).trans_le follows.room

theorem fair (follows : desk.Follows limit book) (call : SessionCall) : book.Fair limit call where
  stays := by
    rintro id rfl
    exact Guestbook.self_mem_welcome _ _ _
  joins := by
    intro id gone live
    cases call with
    | visit other => rw [(Guestbook.eq_or_mem_of_welcome live).resolve_right gone]
    | drop other => exact absurd (Finset.mem_of_mem_erase live) gone
    | list => exact absurd live gone
    | write visit write => exact absurd (Guestbook.live_write limit book visit write ▸ live) gone
  leaves := by
    intro id live gone
    cases call with
    | visit other =>
      obtain ⟨new, full, oldest⟩ := Guestbook.leaves_of_welcome live gone
      exact .inr ⟨other, rfl, new, Nat.le_antisymm follows.room (Nat.le_of_not_lt full), oldest⟩
    | drop other =>
      have same : id = other := by
        by_contra apart
        exact gone (Finset.mem_erase.mpr ⟨apart, live⟩)
      exact .inl (congrArg SessionCall.drop same.symm)
    | list => exact absurd live gone
    | write visit write => exact absurd live (Guestbook.live_write limit book visit write ▸ gone)
  returns := by
    rintro id live rfl
    obtain ⟨ticket, last, -⟩ := follows.kept id live
    exact ⟨ticket, last, by simp [Guestbook.perform, Ticket.next, live, last]⟩
  opens := by
    rintro id gone rfl
    refine ⟨⟨id, book.tickets.length⟩, fun old => ?_, rfl, ?_⟩
    · exact Nat.lt_irrefl _ (follows.numbered _ old)
    · simp [Guestbook.perform, Ticket.next, gone, follows.content_new]

end Desk.Follows

/-- No visit yet. -/
def Guestbook.blank : Guestbook := ⟨[], ∅, []⟩

theorem Sessions.create?_eq {limit : Nat} (roomy : 1 ≤ limit) :
    create? limit = some ⟨limit, roomy, []⟩ := by
  unfold create?
  exact dif_pos roomy

theorem Desk.Follows.blank {limit : Nat} (roomy : 1 ≤ limit) :
    Desk.Follows limit ⟨⟨limit, roomy, []⟩, []⟩ .blank where
  tickets := rfl
  limited := rfl
  ids := rfl
  kept := by
    intro id live
    exact absurd live (Finset.notMem_empty id)
  room := Nat.zero_le _
  known := by
    intro entry member
    exact absurd member List.not_mem_nil
  numbered := by
    intro ticket member
    exact absurd member List.not_mem_nil

/-- Sessions for which there is room are created, and however they are visited, dropped, listed and
written to, the host is told what the guestbook tells: which sessions are live, in the order of
their last visits, and what is in the store of the visited one. -/
theorem Sessions.kept_by_recency (limit : Nat) (roomy : 1 ≤ limit) :
    ∃ sessions, create? limit = some sessions ∧ ∀ calls : List SessionCall,
      let desk := SessionCall.performAll Desk.perform ⟨sessions, []⟩ calls
      let book := SessionCall.performAll (Guestbook.perform limit) .blank calls
      desk.1 = book.1 ∧ desk.2.sessions.ids = book.2.order ∧ book.2.Lawful limit ∧
        ∀ next, (desk.2.perform next).1 = (book.2.perform limit next).1 ∧
          book.2.Fair limit next := by
  refine ⟨⟨limit, roomy, []⟩, create?_eq roomy, fun calls => ?_⟩
  obtain ⟨replies, follows⟩ := (Desk.Follows.blank roomy).performAll roomy calls
  exact ⟨replies, follows.ids, follows.lawful,
    fun next => ⟨(follows.perform roomy next).1, follows.fair next⟩⟩

/-- There is room for two sessions. The first of three leaves, is written to, and comes back. -/
def SessionCall.comeback : List SessionCall :=
  [.visit "ada", .visit "bob", .write 0 (.set "mood" (.text "fine")), .visit "ada", .visit "cleo",
    .visit "dora", .write 0 (.set "mood" (.text "late")), .visit "ada", .list]

theorem Sessions.comeback_kept_by_recency :
    1 ≤ 2 ∧ ∃ sessions, create? 2 = some sessions ∧
      (SessionCall.performAll Desk.perform ⟨sessions, []⟩ SessionCall.comeback).1 =
        [.store ⟨"ada", 0⟩ .empty, .store ⟨"bob", 1⟩ .empty, .written,
          .store ⟨"ada", 0⟩ (Store.empty.set "mood" (.text "fine")), .store ⟨"cleo", 3⟩ .empty,
          .store ⟨"dora", 4⟩ .empty, .written, .store ⟨"ada", 5⟩ .empty,
            .listed ["dora", "ada"]] := by
  obtain ⟨sessions, created, kept⟩ := kept_by_recency 2 (by decide)
  refine ⟨by decide, sessions, created, ?_⟩
  obtain ⟨replies, -⟩ := kept SessionCall.comeback
  refine replies.trans ?_
  rfl

end BotScript
