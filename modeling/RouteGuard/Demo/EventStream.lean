import RouteGuard.Demo.Session

/-!
# The event stream

A connection polls the session and sends the events after its cursor, which starts at the id the client received last.
Where the events of a session are numbered from one and only added to, a client that reconnects any number of times has a
first part of them: every event once, and in order.

* `sent`, `Connection`, `receive`, `receiveAll` : what the server sends, and what reaches the client;
* `sent_eq_drop` : a connection sends what the last version it polled has after the cursor;
* `receiveAll_initial`, `receiveAll_complete` : what the client has.
-/

namespace RouteGuard.Demo

/-- The ids are 1, 2, 3, and so on. -/
def Numbered (events : List DemoEvent) : Prop := events.map DemoEvent.id = List.range' 1 events.length

/-- The id of the last event, or the cursor as it was. -/
def cursorAfter (cursor : Nat) (events : List DemoEvent) : Nat := (events.getLast?.map DemoEvent.id).getD cursor

/-- What is sent for the events of the versions polled, one version after the other. -/
def sent (cursor : Nat) : List (List DemoEvent) → List DemoEvent
  | [] => []
  | events :: polls =>
    let pending := events.filter fun event => cursor < event.id
    pending ++ sent (cursorAfter cursor pending) polls

/-- The events of the versions a connection polls, and how many of those sent reach the client. -/
structure Connection where
  polls : List (List DemoEvent)
  reached : Nat

/-- The client connects with the id it received last, `0` before the first. -/
def receive (log : List DemoEvent) (connection : Connection) : List DemoEvent :=
  log ++ (sent (cursorAfter 0 log) connection.polls).take connection.reached

def receiveAll (connections : List Connection) : List DemoEvent := connections.foldl receive []

section Numbering
variable {events log : List DemoEvent} {cursor : Nat}

theorem Numbered.id_eq (h : Numbered events) {i : Nat} {event : DemoEvent} (hi : events[i]? = some event) :
    event.id = i + 1 := by
  have hlt : i < events.length := (List.getElem?_eq_some_iff.mp hi).1
  have hget := congrArg (·[i]?) h
  simp only [List.getElem?_map, hi, Option.map_some, List.getElem?_range' hlt, Option.some.injEq] at hget
  omega

theorem Numbered.of_initial (h : Numbered events) (hlog : log <+: events) : Numbered log := by
  obtain ⟨rest, rfl⟩ := hlog
  rw [Numbered, List.map_append, List.length_append, ← List.range'_append_1] at h
  exact (List.append_inj h (by simp)).1

theorem Numbered.concat (h : Numbered events) {event : DemoEvent} (hid : event.id = events.length + 1) :
    Numbered (events ++ [event]) := by
  rw [Numbered, List.map_append, List.length_append, ← List.range'_append_1, h]
  simp [hid, Nat.add_comm]

/-- The events after a cursor. -/
theorem Numbered.filter_eq_drop (h : Numbered events) :
    events.filter (fun event => cursor < event.id) = events.drop cursor := by
  have hsplit := List.take_append_drop cursor events
  conv_lhs => rw [← hsplit]
  rw [List.filter_append]
  have htake : (events.take cursor).filter (fun event => cursor < event.id) = [] := by
    rw [List.filter_eq_nil_iff]
    intro event hevent
    obtain ⟨i, hi, rfl⟩ := List.mem_take_iff_getElem.mp hevent
    have := h.id_eq (List.getElem?_eq_getElem (by omega : i < events.length))
    simp only [decide_eq_true_eq]
    omega
  have hdrop : (events.drop cursor).filter (fun event => cursor < event.id) = events.drop cursor := by
    rw [List.filter_eq_self]
    intro event hevent
    obtain ⟨i, hi, rfl⟩ := List.mem_drop_iff_getElem.mp hevent
    have := h.id_eq (List.getElem?_eq_getElem (by omega : cursor + i < events.length))
    simp only [decide_eq_true_eq]
    omega
  rw [htake, hdrop, List.nil_append]

/-- The cursor after the rest of the events, or after the first of them. -/
theorem Numbered.cursorAfter_drop (h : Numbered events) (hcursor : cursor ≤ events.length) :
    cursorAfter cursor (events.drop cursor) = events.length := by
  rw [cursorAfter, List.getLast?_drop]
  split
  · simp
    omega
  · next hlt =>
    cases hlast : events.getLast? with
    | none =>
      rw [List.getLast?_eq_none_iff] at hlast
      simp_all
    | some event =>
      rw [List.getLast?_eq_getElem?] at hlast
      have := h.id_eq hlast
      simp only [Option.map_some, Option.getD_some]
      omega

theorem Numbered.cursorAfter_initial (h : Numbered events) (hlog : log <+: events) : cursorAfter 0 log = log.length := by
  have hall : cursorAfter 0 (log.drop 0) = log.length := (h.of_initial hlog).cursorAfter_drop (Nat.zero_le _)
  simpa using hall

end Numbering

/-! ## Connections -/

section Connections
variable {all log : List DemoEvent} {cursor : Nat}

/-- A connection sends what the last version it has polled has after the cursor. -/
theorem sent_eq_drop (hall : Numbered all) {polls : List (List DemoEvent)} (hpolls : ∀ events ∈ polls, events <+: all)
    (hgrows : polls.Pairwise (· <+: ·)) (hcursor : ∀ events ∈ polls, cursor ≤ events.length) {last : List DemoEvent}
    (hlast : polls.getLast? = some last) : sent cursor polls = last.drop cursor := by
  induction polls generalizing cursor with
  | nil => cases hlast
  | cons events polls ih =>
    have hevents : Numbered events := hall.of_initial (hpolls events List.mem_cons_self)
    have hle := hcursor events List.mem_cons_self
    obtain ⟨hfirst, hrest⟩ := List.pairwise_cons.mp hgrows
    rw [sent, hevents.filter_eq_drop, hevents.cursorAfter_drop hle]
    cases polls with
    | nil =>
      obtain rfl : events = last := by simpa using hlast
      simp [sent]
    | cons events' polls =>
      have hlast' : (events' :: polls).getLast? = some last := by
        rwa [List.getLast?_cons_cons] at hlast
      rw [ih (fun e he => hpolls e (List.mem_cons_of_mem _ he)) hrest
        (fun e he => (hfirst e he).length_le) hlast']
      obtain ⟨rest, rfl⟩ := hfirst last (List.mem_of_getLast? hlast')
      rw [List.drop_left, List.drop_append_of_le_length hle]

/-- What a client has after a connection is again a first part of the events, and no longer than the version polled
last. -/
theorem receive_initial (hall : Numbered all) (hlog : log <+: all) {connection : Connection}
    (hpolls : ∀ events ∈ connection.polls, events <+: all) (hgrows : connection.polls.Pairwise (· <+: ·))
    (hlater : ∀ events ∈ connection.polls, log <+: events) :
    receive log connection <+: all ∧
      ∀ last, connection.polls.getLast? = some last → receive log connection <+: last ∧
        (last.length ≤ connection.reached → receive log connection = last) := by
  rw [receive, hall.cursorAfter_initial hlog]
  cases hlast : connection.polls.getLast? with
  | none =>
    rw [List.getLast?_eq_none_iff] at hlast
    rw [hlast]
    refine ⟨by simpa [sent] using hlog, ?_⟩
    intro last hnone
    cases hnone
  | some last =>
    have hmem := List.mem_of_getLast? hlast
    obtain ⟨rest, rfl⟩ := hlater last hmem
    rw [sent_eq_drop hall hpolls hgrows (fun events he => (hlater events he).length_le) hlast, List.drop_left]
    have hinitial : log ++ rest.take connection.reached <+: log ++ rest :=
      (List.prefix_append_right_inj log).mpr (List.take_prefix ..)
    refine ⟨hinitial.trans (hpolls _ hmem), ?_⟩
    rintro last' hlast'
    cases hlast'
    refine ⟨hinitial, fun hreached => ?_⟩
    rw [List.take_of_length_le]
    rw [List.length_append] at hreached
    omega

/-- **Every event once, and in order.** A client that connects again and again, polling later and later versions, has a
first part of the events. -/
theorem receiveAll_initial (hall : Numbered all) {connections : List Connection}
    (hpolls : ∀ connection ∈ connections, ∀ events ∈ connection.polls, events <+: all)
    (hgrows : (connections.flatMap Connection.polls).Pairwise (· <+: ·)) : receiveAll connections <+: all := by
  suffices h : ∀ log, log <+: all → (∀ events ∈ connections.flatMap Connection.polls, log <+: events) →
      connections.foldl receive log <+: all by
    exact h [] List.nil_prefix fun _ _ => List.nil_prefix
  induction connections with
  | nil => exact fun log hlog _ => hlog
  | cons connection connections ih =>
    intro log hlog hlater
    rw [List.flatMap_cons, List.pairwise_append] at hgrows
    obtain ⟨hown, hrest, hacross⟩ := hgrows
    have hreceived := receive_initial hall hlog (hpolls connection List.mem_cons_self) hown
      fun events he => hlater events (List.mem_flatMap.mpr ⟨connection, List.mem_cons_self, he⟩)
    refine ih (fun c hc => hpolls c (List.mem_cons_of_mem _ hc)) hrest _ hreceived.1 ?_
    intro events he
    cases hlast : connection.polls.getLast? with
    | none =>
      rw [List.getLast?_eq_none_iff] at hlast
      rw [receive, hlast]
      simpa [sent] using hlater events (by rw [List.flatMap_cons]; exact List.mem_append_right _ he)
    | some last => exact (hreceived.2 last hlast).1.trans (hacross last (List.mem_of_getLast? hlast) events he)

/-- When all that is sent on the last connection arrives, the client has what the last version polled has. -/
theorem receiveAll_complete (hall : Numbered all) {connections : List Connection} {connection : Connection}
    (hpolls : ∀ c ∈ connections ++ [connection], ∀ events ∈ c.polls, events <+: all)
    (hgrows : ((connections ++ [connection]).flatMap Connection.polls).Pairwise (· <+: ·)) {last : List DemoEvent}
    (hlast : connection.polls.getLast? = some last) (hreached : last.length ≤ connection.reached) :
    receiveAll (connections ++ [connection]) = last := by
  rw [List.flatMap_append, List.flatMap_singleton, List.pairwise_append] at hgrows
  obtain ⟨hearlier, hown, hacross⟩ := hgrows
  have hlater (events : List DemoEvent) (he : events ∈ connection.polls) : receiveAll connections <+: events := by
    refine receiveAll_initial (hall.of_initial (hpolls connection (by simp) events he)) ?_ hearlier
    intro c hc polled hpolled
    exact hacross polled (List.mem_flatMap.mpr ⟨c, hc, hpolled⟩) events he
  have hlog : receiveAll connections <+: all :=
    receiveAll_initial hall (fun c hc => hpolls c (List.mem_append_left _ hc)) hearlier
  rw [receiveAll, List.foldl_append]
  exact ((receive_initial hall hlog (hpolls connection (by simp)) hown hlater).2 last hlast).2 hreached

end Connections

end RouteGuard.Demo
