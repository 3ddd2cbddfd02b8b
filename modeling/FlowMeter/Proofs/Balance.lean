import Mathlib.Data.Nat.ModEq
import FlowMeter.Proofs.Account
import FlowMeter.Proofs.Session

/-!
# The balance of a session

Nothing is lost in a session. What its polls read off the counters of a meter, together with what these
hold at the end, is what was counted, as far as a counter that wraps around tells. What the records of its
flushes report of a flow counter, together with what the flows of the meter hold at the end, is what was
posted. So buffers are read or dropped, and events that are read or handed over are ignored or make a packet.
-/

namespace FlowMeter

/-- What is posted to a counter, whatever the flow. -/
def Postings.sum (postings : Postings) (counter : FlowCounter) : Nat :=
  (postings.map (·.2.count counter)).sum

namespace Postings

/-- What is posted first and what is posted then add up. -/
theorem sum_append (front rest : Postings) (counter : FlowCounter) :
    sum (front ++ rest) counter = sum front counter + sum rest counter := by
  rw [sum, List.map_append, List.sum_append]
  rfl

/-- What several parts post adds up over the parts. -/
theorem sum_flatMap {A : Type} (list : List A) (postings : A → Postings) (counter : FlowCounter) :
    sum (list.flatMap postings) counter = (list.map fun a => sum (postings a) counter).sum := by
  rw [sum, List.map_flatMap, List.flatMap_def, List.sum_flatten, List.map_map]
  rfl

end Postings

namespace FlowTable

variable {aggregation : Aggregation}

/-- What is held of a counter, whatever the flow. -/
def sum (entries : List (FlowKey × FlowStats)) (counter : FlowCounter) : Nat :=
  (entries.map (·.2.amounts.count counter)).sum

/-- What is posted to a flow is held then. -/
theorem sum_alterEntries {key : FlowKey} {amounts : Amounts} {entries result : List (FlowKey × FlowStats)}
    (h : alterEntries aggregation key (·.plus amounts) entries = .ok result) (counter : FlowCounter) :
    sum result counter = sum entries counter + amounts.count counter := by
  rcases alterEntries_cases h with
    ⟨front, first, stats, changed, rest, rfl, _, hchanged, rfl⟩ | ⟨_, changed, hchanged, rfl⟩
  · have hcount : changed.amounts.count counter = stats.amounts.count counter + amounts.count counter := by
      rw [FlowStats.plus_eq_ok_iff.mp hchanged, Amounts.count_add]
    simp only [sum, List.map_append, List.map_cons, List.sum_append, List.sum_cons, hcount]
    omega
  · have hcount : changed.amounts.count counter = amounts.count counter := by
      rw [FlowStats.plus_eq_ok_iff.mp hchanged, FlowStats.amounts_zero, zero_add]
    simp [sum, hcount]

/-- Whatever is posted is held then. -/
theorem sum_post {postings : Postings} {entries result : List (FlowKey × FlowStats)}
    (h : post aggregation postings entries = .ok result) (counter : FlowCounter) :
    sum result counter = sum entries counter + postings.sum counter := by
  induction postings generalizing entries with
  | nil =>
    obtain rfl := Except.ok.inj h
    rfl
  | cons posting rest ih =>
    obtain ⟨between, hbetween, hrest⟩ := exists_of_bind_eq_ok h
    rw [ih hrest, sum_alterEntries hbetween, Postings.sum, Postings.sum, List.map_cons, List.sum_cons,
      Nat.add_assoc]

end FlowTable

/-- The field of a record that reports a counter; not every counter is reported. -/
def FlowCounter.field? : FlowCounter → Option String
  | .sendBytes => some "send_bytes"
  | .recvBytes => some "recv_bytes"
  | .sendPackets => some "send_packets"
  | .recvPackets => some "recv_packets"
  | .sendLatency => some "send_total_latency"
  | .recvLatency => some "recv_total_latency"
  | _ => none

/-- The number that a record reports of a counter. -/
def Record.number (record : Record) (counter : FlowCounter) : Nat :=
  match counter.field?.bind record.get? with
  | some text => Nat.ofDigitChars 10 text.toList 0
  | none => 0

/-- What a record tells of the key of a flow is no counter. -/
theorem Record.get?_addKey_of_field {counter : FlowCounter} {field : String}
    (h : counter.field? = some field) (key : FlowKey) (withLocalPort : Bool) (resolver : Resolver) :
    (Record.empty.addKey key withLocalPort resolver).get? field = none := by
  have hempty : Record.empty.get? field = none := rfl
  have hother : field ≠ "remote_info" ∧ field ≠ "local_port" ∧ field ≠ "socket_type" ∧
      field ≠ "role" := by
    cases counter <;> simp only [FlowCounter.field?, Option.some.injEq, reduceCtorEq] at h <;>
      subst h <;> decide
  cases withLocalPort <;> simp [addKey, get?_add, hempty, hother]

/-- The record of a flow has a field for each counter that is reported. -/
theorem Record.get?_addFlow_of_field {counter : FlowCounter} {field : String}
    (h : counter.field? = some field) (key : FlowKey) (stats : FlowStats) (withLocalPort : Bool)
    (resolver : Resolver) :
    (Record.empty.addFlow key stats withLocalPort resolver).get? field =
      some (toString (stats.counter counter)) := by
  have hkey := get?_addKey_of_field h key withLocalPort resolver
  rw [addFlow, addStats]
  simp only [get?_add, hkey]
  cases counter <;> simp only [FlowCounter.field?, Option.some.injEq, reduceCtorEq] at h <;>
    subst h <;> rfl

/-- The record of a flow reports what the counters hold. -/
theorem Record.number_addFlow {counter : FlowCounter} (h : counter.field?.isSome) (key : FlowKey)
    (stats : FlowStats) (withLocalPort : Bool) (resolver : Resolver) :
    (Record.empty.addFlow key stats withLocalPort resolver).number counter =
      stats.amounts.count counter := by
  have htext : ∀ value : UInt64, Nat.ofDigitChars 10 (toString value).toList 0 = value.toNat := by
    intro value
    have hrepr : (toString value).toList = Nat.toDigits 10 value.toNat := Nat.toList_repr
    rw [hrepr, Nat.ofDigitChars_ten_toDigits]
  obtain ⟨field, hfield⟩ := Option.isSome_iff_exists.mp h
  rw [number, hfield, Option.bind_some, get?_addFlow_of_field hfield]
  exact htext _

/-- The counters of a meter. -/
inductive MeterCounter where
  | decoded
  | dropped
  | ignored
  | flushed
deriving DecidableEq, Repr

/-- The name of a counter of a meter. -/
def MeterCounter.name : MeterCounter → String
  | .decoded => "decoded"
  | .dropped => "dropped"
  | .ignored => "ignored"
  | .flushed => "flushed"

/-- The value of a counter of a meter. -/
def MeterCounters.value (counters : MeterCounters) : MeterCounter → UInt64
  | .decoded => counters.decoded
  | .dropped => counters.dropped
  | .ignored => counters.ignored
  | .flushed => counters.flushed

namespace Request

/-- Whether a request flushes the meter. -/
def isFlush : Request → Bool
  | .flush _ => true
  | _ => false

/-- The buffers that a request hands over: its own one, or the bodies of the complete frames of its stream. -/
def buffers : Request → List Bytes
  | .buffer bytes => [bytes]
  | .frames stream => Frame.bodies stream
  | _ => []

/-- The events that a request hands over itself. -/
def handed : Request → List Event
  | .event given => [given]
  | _ => []

/-- The events of a request, read or handed over. -/
def events (request : Request) : List Event :=
  Meter.eventsOf request.buffers ++ request.handed

/-- What the latency of a request posts. -/
def latencyPostings : Request → Postings
  | .latency key direction nanos => [(key, (FlowUpdate.latency direction nanos).added.amounts)]
  | _ => []

/-- What a request posts. -/
def postings (request : Request) : Postings :=
  request.events.flatMap Meter.eventPostings ++ request.latencyPostings

/-- How far a request moves a counter. -/
def counted (request : Request) : MeterCounter → Nat
  | .decoded => (Meter.eventsOf request.buffers).length
  | .dropped => request.buffers.countP Meter.isDropped
  | .ignored => request.events.countP Meter.isIgnored
  | .flushed => 0

end Request

namespace Answer

/-- The records of an answer. -/
def reported : Answer → List Record
  | .records flushed => flushed
  | _ => []

/-- What an answer reads off a counter. -/
def polled (given : Answer) (counter : MeterCounter) : Nat :=
  match given with
  | .counters polled =>
    match polled.find? (·.name = counter.name) with
    | some ⟨_, _, .unsigned value⟩ => value.toNat
    | _ => 0
  | _ => 0

/-- How far an answer moves a counter. -/
def counted (given : Answer) : MeterCounter → Nat
  | .flushed => given.reported.length
  | _ => 0

end Answer

namespace Meter

variable {meter next : Meter} {request : Request} {given : Answer}

/-- What a request that hands something over leaves: what it hands over is posted and counted. -/
def Posted (meter : Meter) (request : Request) (next : Meter) : Prop :=
  ∃ entries, FlowTable.post meter.aggregation request.postings meter.table.entries = .ok entries ∧
    next = meter.settle (request.counted .decoded) (request.counted .dropped)
      (request.counted .ignored) entries

/-- What becomes of buffers becomes of a request that hands over nothing else. -/
theorem settleBuffers_eq (meter : Meter) (request : Request) (hhanded : request.handed = [])
    (hlatency : request.latencyPostings = []) :
    (FlowTable.post meter.aggregation ((eventsOf request.buffers).flatMap eventPostings)
        meter.table.entries).map (meter.settleBuffers request.buffers) =
      (FlowTable.post meter.aggregation request.postings meter.table.entries).map
        (meter.settle (request.counted .decoded) (request.counted .dropped)
          (request.counted .ignored)) := by
  have hevents : request.events = eventsOf request.buffers := by
    rw [Request.events, hhanded, List.append_nil]
  rw [Request.postings, Request.counted, Request.counted, Request.counted, hevents, hlatency,
    List.append_nil]
  rfl

/-- What a request hands over is posted and counted. -/
theorem answer_eq_post (meter : Meter) (hpoll : request ≠ .poll)
    (hflush : ∀ resolver, request ≠ .flush resolver) :
    (meter.answer request).map (·.2) =
      (FlowTable.post meter.aggregation request.postings meter.table.entries).map
        (meter.settle (request.counted .decoded) (request.counted .dropped)
          (request.counted .ignored)) := by
  cases request with
  | buffer buffer =>
    have hanswer : (meter.answer (.buffer buffer)).map (·.2) = (meter.onBuffer buffer).map (·.2) := by
      rw [answer]
      cases meter.onBuffer buffer <;> rfl
    rw [hanswer, onBuffer_eq_post]
    exact meter.settleBuffers_eq (.buffer buffer) rfl rfl
  | frames stream =>
    -- A stream is no more than its complete frames: what is left of it is handed over again.
    have hanswer : (meter.answer (.frames stream)).map (·.2) =
        meter.onBodies (Frame.bodies stream) := by
      rw [answer, onFrames_eq meter (.ofStream stream), Frame.bodies]
      cases meter.onBodies (Framing.ofStream stream).bodies <;> rfl
    rw [hanswer, onBodies_eq_post]
    exact meter.settleBuffers_eq (.frames stream) rfl rfl
  | event event =>
    have hanswer : (meter.answer (.event event)).map (·.2) = meter.onEvent event := by
      rw [answer]
      cases meter.onEvent event <;> rfl
    have hpostings : (Request.event event).postings = eventPostings event := by
      simp [Request.postings, Request.events, Request.buffers, Request.handed, eventsOf,
        Request.latencyPostings]
    have hignored : (Request.event event).counted .ignored = (isIgnored event).toNat :=
      countP_cons_toNat isIgnored event []
    rw [hanswer, onEvent_eq, hpostings, hignored]
    rfl
  | latency key direction nanos =>
    have hanswer : (meter.answer (.latency key direction nanos)).map (·.2) =
        meter.addLatency key direction nanos := by
      rw [answer]
      cases meter.addLatency key direction nanos <;> rfl
    rw [hanswer, addLatency_eq]
    rfl
  | poll => contradiction
  | flush resolver => exact absurd rfl (hflush resolver)

/-- A request that is answered hands something over, or it reads off the counters, or the flows. -/
theorem answer_cases (h : meter.answer request = .ok (given, next)) :
    (meter.Posted request next ∧ given.reported = [] ∧ ∀ counter, given.polled counter = 0) ∨
    (request = .poll ∧ given = .counters meter.counters.list ∧ next = { meter with counters := {} }) ∨
    ∃ resolver, request = .flush resolver ∧ given = .records (meter.flush resolver).1 ∧
      next = (meter.flush resolver).2 := by
  have hposted (hpoll : request ≠ .poll) (hflush : ∀ resolver, request ≠ .flush resolver) :
      meter.Posted request next := by
    have hanswer : (meter.answer request).map (·.2) = .ok next := by rw [h]; rfl
    rw [answer_eq_post meter hpoll hflush] at hanswer
    obtain ⟨entries, hentries, hnext⟩ := exists_of_map_eq_ok hanswer
    exact ⟨entries, hentries, hnext.symm⟩
  cases request with
  | poll =>
    obtain ⟨rfl, rfl⟩ := Prod.mk.inj (Except.ok.inj h)
    exact .inr (.inl ⟨rfl, rfl, rfl⟩)
  | flush resolver =>
    obtain ⟨rfl, rfl⟩ := Prod.mk.inj (Except.ok.inj h)
    exact .inr (.inr ⟨resolver, rfl, rfl, rfl⟩)
  | _ =>
    obtain ⟨outcome, _, hpair⟩ := exists_of_map_eq_ok h
    obtain ⟨rfl, _⟩ := Prod.mk.inj hpair
    exact .inl ⟨hposted nofun nofun, rfl, fun _ => rfl⟩

/-- A request is answered where what it posts can be posted. -/
theorem exists_answer_of_post {entries : List (FlowKey × FlowStats)}
    (h : FlowTable.post meter.aggregation request.postings meter.table.entries = .ok entries) :
    ∃ given next, meter.answer request = .ok (given, next) := by
  have hanswered (hpoll : request ≠ .poll) (hflush : ∀ resolver, request ≠ .flush resolver) :
      ∃ given next, meter.answer request = .ok (given, next) := by
    have hanswer := meter.answer_eq_post hpoll hflush
    rw [h] at hanswer
    obtain ⟨⟨given, next⟩, hnext, _⟩ := exists_of_map_eq_ok hanswer
    exact ⟨given, next, hnext⟩
  cases request with
  | poll => exact ⟨_, _, rfl⟩
  | flush resolver => exact ⟨_, _, rfl⟩
  | _ => exact hanswered nofun nofun

/-- A session without a flush posts what its requests do, one after the other. -/
theorem post_of_serve {requests : List Request} {answers : List Answer}
    (hflush : ∀ request ∈ requests, request.isFlush = false)
    (h : meter.serve requests = .ok (answers, next)) :
    FlowTable.post meter.aggregation (requests.flatMap Request.postings) meter.table.entries =
      .ok next.table.entries := by
  induction requests generalizing meter answers with
  | nil =>
    obtain ⟨rfl, rfl⟩ := Prod.mk.inj (Except.ok.inj h)
    rfl
  | cons request rest ih =>
    obtain ⟨hfirst, hrest⟩ := List.forall_mem_cons.mp hflush
    obtain ⟨first, between, later, hbetween, hlast, rfl⟩ := exists_of_serve_cons h
    have hafter := ih hrest hlast
    rw [List.flatMap_cons, FlowTable.post_append]
    rcases answer_cases hbetween with
      ⟨⟨entries, hentries, rfl⟩, _, _⟩ | ⟨rfl, _, rfl⟩ | ⟨resolver, rfl, _, _⟩
    · rw [hentries]
      exact hafter
    · exact hafter
    · contradiction

/-- A poll reads off what the counters hold. -/
theorem polled_list (counters : MeterCounters) (counter : MeterCounter) :
    Answer.polled (.counters counters.list) counter = (counters.value counter).toNat := by
  cases counter <;> rfl

/-- A counter that wraps around grows by a number, as far as it tells. -/
theorem toNat_add_toUInt64 (value : UInt64) (count : Nat) :
    (value + count.toUInt64).toNat ≡ value.toNat + count [MOD 2 ^ 64] := by
  rw [UInt64.toNat_add, Nat.toUInt64_eq, UInt64.toNat_ofNat']
  exact (Nat.mod_modEq _ _).trans ((Nat.mod_modEq _ _).add_left _)

/-- What an answer reads off a counter and what the counter holds then is what it held before and how far
it was moved. -/
theorem answer_counted (h : meter.answer request = .ok (given, next)) (counter : MeterCounter) :
    given.polled counter + (next.counters.value counter).toNat ≡
      (meter.counters.value counter).toNat + request.counted counter + given.counted counter
        [MOD 2 ^ 64] := by
  rcases answer_cases h with
    ⟨⟨entries, _, rfl⟩, hreported, hpolled⟩ | ⟨rfl, rfl, rfl⟩ | ⟨resolver, rfl, rfl, rfl⟩
  · have hgiven : given.counted counter = 0 := by
      cases counter <;> simp [Answer.counted, hreported]
    rw [hpolled, hgiven, Nat.zero_add, Nat.add_zero]
    cases counter with
    | decoded => exact toNat_add_toUInt64 _ _
    | dropped => exact toNat_add_toUInt64 _ _
    | ignored => exact toNat_add_toUInt64 _ _
    | flushed => exact Nat.ModEq.rfl
  · rw [polled_list]
    cases counter <;> exact Nat.ModEq.rfl
  · have hpolled : Answer.polled (.records (meter.flush resolver).1) counter = 0 := rfl
    rw [hpolled, Nat.zero_add]
    cases counter with
    | flushed => exact toNat_add_toUInt64 _ _
    | _ => exact Nat.ModEq.rfl

/-- What an answer reports of a flow counter and what the flows hold of it then is what they held before
and what was posted. -/
theorem answer_reported (h : meter.answer request = .ok (given, next)) {counter : FlowCounter}
    (hfield : counter.field?.isSome) :
    (given.reported.map (·.number counter)).sum + FlowTable.sum next.table.entries counter =
      FlowTable.sum meter.table.entries counter + request.postings.sum counter := by
  rcases answer_cases h with
    ⟨⟨entries, hentries, rfl⟩, hreported, _⟩ | ⟨rfl, rfl, rfl⟩ | ⟨resolver, rfl, rfl, rfl⟩
  -- What is posted is held; a poll posts nothing; a flush reports all that was held and holds nothing.
  · rw [hreported, List.map_nil, List.sum_nil, Nat.zero_add]
    exact FlowTable.sum_post hentries counter
  · exact Nat.zero_add _
  · have hrecords : (meter.flush resolver).1.map (·.number counter) =
        meter.table.entries.map (·.2.amounts.count counter) := by
      rw [flush, List.map_map]
      refine List.map_congr_left fun entry _ => ?_
      exact Record.number_addFlow hfield entry.1 entry.2 meter.withLocalPort resolver
    rw [Answer.reported, hrecords]
    rfl

/-- What every answer keeps in balance a session keeps in balance: what it gives out and what the meter
holds at the end is what the meter held, what it was given and what it took back. -/
theorem serve_balance {n : Nat} {held : Meter → Nat} {into : Request → Nat} {back out : Answer → Nat}
    (hanswer : ∀ {meter next : Meter} {request : Request} {given : Answer},
      meter.answer request = .ok (given, next) →
        out given + held next ≡ held meter + into request + back given [MOD n])
    {requests : List Request} {answers : List Answer}
    (h : meter.serve requests = .ok (answers, next)) :
    (answers.map out).sum + held next ≡
      held meter + (requests.map into).sum + (answers.map back).sum [MOD n] := by
  -- The meter between two requests is both what one answer leaves and what the rest starts from.
  induction requests generalizing meter answers with
  | nil =>
    obtain ⟨rfl, rfl⟩ := Prod.mk.inj (Except.ok.inj h)
    rw [List.map_nil, List.map_nil, List.sum_nil, List.map_nil, Nat.zero_add]
    rfl
  | cons request rest ih =>
    obtain ⟨first, between, later, hfirst, hlast, rfl⟩ := exists_of_serve_cons h
    simp only [List.map_cons, List.sum_cons]
    calc
      out first + (later.map out).sum + held next
        = out first + ((later.map out).sum + held next) := Nat.add_assoc ..
      _ ≡ out first + (held between + (rest.map into).sum + (later.map back).sum) [MOD n] :=
        (ih hlast).add_left _
      _ = (out first + held between) + ((rest.map into).sum + (later.map back).sum) := by omega
      _ ≡ (held meter + into request + back first) +
          ((rest.map into).sum + (later.map back).sum) [MOD n] := (hanswer hfirst).add_right _
      _ = held meter + (into request + (rest.map into).sum) +
          (back first + (later.map back).sum) := by omega

/-- What a session counts: what its answers read off a counter, and what the counter holds at the end. -/
def counted (meter : Meter) (answers : List Answer) (counter : MeterCounter) : Nat :=
  (answers.map (·.polled counter)).sum + (meter.counters.value counter).toNat

/-- What a session reports of a flow counter: what its records tell, and what the flows hold at the end. -/
def reported (meter : Meter) (answers : List Answer) (counter : FlowCounter) : Nat :=
  ((answers.flatMap Answer.reported).map (·.number counter)).sum +
    FlowTable.sum meter.table.entries counter

variable {settings : Settings} {requests : List Request} {answers : List Answer}

/-- How far a session moves a counter. -/
def moved (requests : List Request) (answers : List Answer) : MeterCounter → Nat
  | .decoded => (eventsOf (requests.flatMap Request.buffers)).length
  | .dropped => (requests.flatMap Request.buffers).countP isDropped
  | .ignored => (requests.flatMap Request.events).countP isIgnored
  | .flushed => (answers.flatMap Answer.reported).length

/-- A session moves a counter as far as its requests and its answers do. -/
theorem sum_counted (requests : List Request) (answers : List Answer) (counter : MeterCounter) :
    (requests.map (·.counted counter)).sum + (answers.map (·.counted counter)).sum =
      moved requests answers counter := by
  cases counter with
  | decoded =>
    rw [moved, eventsOf, List.filterMap_flatMap, List.length_flatMap]
    simp [Answer.counted, Request.counted, eventsOf]
  | dropped =>
    rw [moved, List.countP_flatMap]
    simp [Answer.counted, Request.counted, Function.comp_def]
  | ignored =>
    rw [moved, List.countP_flatMap]
    simp [Answer.counted, Request.counted, Function.comp_def]
  | flushed =>
    rw [moved, List.length_flatMap]
    simp [Answer.counted, Request.counted]

/-- A session counts how far it moves a counter. -/
theorem serve_counted (h : (ofSettings settings).serve requests = .ok (answers, meter))
    (counter : MeterCounter) :
    meter.counted answers counter ≡ moved requests answers counter [MOD 2 ^ 64] := by
  have hbalance := serve_balance (fun hanswer => answer_counted hanswer counter) h
  have hstart : ((ofSettings settings).counters.value counter).toNat = 0 := by
    cases counter <;> rfl
  rwa [hstart, Nat.zero_add, sum_counted] at hbalance

/-- A session reports what its requests post. -/
theorem serve_reported (h : (ofSettings settings).serve requests = .ok (answers, meter))
    {counter : FlowCounter} (hfield : counter.field?.isSome) :
    meter.reported answers counter = Postings.sum (requests.flatMap Request.postings) counter := by
  have hanswer : ∀ {meter next : Meter} {request : Request} {given : Answer},
      meter.answer request = .ok (given, next) →
        (given.reported.map (·.number counter)).sum + FlowTable.sum next.table.entries counter ≡
          FlowTable.sum meter.table.entries counter + request.postings.sum counter + 0 [MOD 0] := by
    intro meter next request given hnext
    rw [answer_reported hnext hfield]
    rfl
  have hbalance := Nat.modEq_zero_iff.mp (serve_balance hanswer h)
  have hstart : FlowTable.sum (ofSettings settings).table.entries counter = 0 := rfl
  have hback : (answers.map fun _ => 0).sum = 0 := by simp
  rw [hstart, hback, Nat.zero_add, Nat.add_zero, ← Postings.sum_flatMap] at hbalance
  rw [reported, List.map_flatMap, List.flatMap_def, List.sum_flatten, List.map_map]
  exact hbalance

/-- The lengths of the packets of some events that are accounted in a direction: the packets of data
events that go in the direction. -/
def accountedBytes (direction : Direction) (events : List Event) : Nat :=
  ((((events.filter (·.header.kind = .data)).filterMap (·.packet)).filter
    (·.direction = direction)).map (·.realLength.toNat)).sum

/-- The packets of data events that go in a direction are those that are accounted in it. -/
theorem accountedBytes_eq {direction : Direction} (h : direction ≠ .none) (events : List Event) :
    accountedBytes direction events =
      (((events.filterMap accounted).filter (·.direction = direction)).map
        (·.realLength.toNat)).sum := by
  have hpacket : ∀ event : Event,
      (if event.header.kind = .data then event.packet else none).filter (·.direction = direction) =
        (accounted event).filter (·.direction = direction) := by
    intro event
    have hdirection : (fun packet : Packet =>
        decide (packet.direction ≠ .none) && decide (packet.direction = direction)) =
        fun packet => decide (packet.direction = direction) := by
      funext packet
      by_cases hsame : packet.direction = direction <;> simp [hsame, h]
    rw [accounted, Option.filter_filter, hdirection, Event.carried]
  rw [accountedBytes, List.filterMap_filter, List.filter_filterMap, List.filter_filterMap]
  simp only [decide_eq_true_eq, hpacket]

/-- Every buffer is read or dropped. -/
theorem length_eventsOf_add_dropped (buffers : List Bytes) :
    (eventsOf buffers).length + buffers.countP isDropped = buffers.length := by
  have hdropped : isDropped = fun buffer => decide ¬(Event.ofBuffer? buffer).isSome := by
    funext buffer
    rw [isDropped]
    cases Event.ofBuffer? buffer <;> rfl
  rw [eventsOf, List.length_filterMap_eq_countP, hdropped, ← List.length_eq_countP_add_countP]

/-- What a packet adds to a counter, but for those of protocols, it adds by its direction. -/
theorem count_packetAmounts (packet : Packet) {counter : FlowCounter}
    (hmatched : counter ≠ .protocolMatched) (hunmatched : counter ≠ .protocolUnmatched) :
    (packetAmounts packet).count counter =
      ((FlowUpdate.packet packet.direction packet.realLength.toUInt64).added.counter counter).toNat := by
  have hrecognised : (FlowUpdate.recognised packet.protocol).added.counter counter = 0 := by
    rw [FlowUpdate.added]
    cases counter <;> split <;> first | contradiction | rfl
  simp [packetAmounts, FlowUpdate.amounts, FlowStats.amounts, hrecognised]

/-- A packet with a direction is counted once. -/
theorem packets_packetAmounts {packet : Packet} (h : packet.direction ≠ .none) :
    (packetAmounts packet).count .sendPackets + (packetAmounts packet).count .recvPackets = 1 := by
  rw [count_packetAmounts packet (by decide) (by decide),
    count_packetAmounts packet (by decide) (by decide)]
  cases hdirection : packet.direction with
  | none => contradiction
  | inbound => rfl
  | outbound => rfl

/-- A packet that is accounted has a direction. -/
theorem direction_of_accounted {event : Event} {packet : Packet} (h : accounted event = some packet) :
    packet.direction ≠ .none := by
  simpa using (Option.filter_eq_some_iff.mp h).2

/-- An event is ignored, or it posts one packet. -/
theorem ignored_add_packets (event : Event) :
    (isIgnored event).toNat + ((eventPostings event : Postings).sum .sendPackets +
      (eventPostings event : Postings).sum .recvPackets) = 1 := by
  rw [isIgnored, eventPostings]
  cases haccounted : accounted event with
  | none => rfl
  | some packet => simp [Postings.sum, packets_packetAmounts (direction_of_accounted haccounted)]

/-- An event posts the bytes of its packet by the direction of the packet. -/
theorem bytes_eventPostings (event : Event) :
    (eventPostings event : Postings).sum .sendBytes = accountedBytes .outbound [event] ∧
      (eventPostings event : Postings).sum .recvBytes = accountedBytes .inbound [event] := by
  rw [eventPostings, accountedBytes_eq (by decide), accountedBytes_eq (by decide), List.filterMap_cons]
  cases haccounted : accounted event with
  | none => exact ⟨rfl, rfl⟩
  | some packet =>
    simp only [Postings.sum, List.map_cons, List.map_nil, List.sum_cons, List.sum_nil]
    rw [count_packetAmounts packet (by decide) (by decide),
      count_packetAmounts packet (by decide) (by decide)]
    cases hpacket : packet.direction <;>
      simp [hpacket, FlowUpdate.added, FlowStats.counter, FlowStats.zero]

/-- Events are ignored, or each of them posts one packet. -/
theorem countP_ignored_add_packets (events : List Event) :
    events.countP isIgnored + (Postings.sum (events.flatMap eventPostings) .sendPackets +
      Postings.sum (events.flatMap eventPostings) .recvPackets) = events.length := by
  induction events with
  | nil => rfl
  | cons event rest ih =>
    have hevent := ignored_add_packets event
    rw [List.flatMap_cons, Postings.sum_append, Postings.sum_append, countP_cons_toNat, List.length_cons]
    omega

/-- Events post the bytes of their packets by the directions of the packets. -/
theorem bytes_flatMap_eventPostings (events : List Event) :
    Postings.sum (events.flatMap eventPostings) .sendBytes = accountedBytes .outbound events ∧
      Postings.sum (events.flatMap eventPostings) .recvBytes = accountedBytes .inbound events := by
  induction events with
  | nil => exact ⟨rfl, rfl⟩
  | cons event rest ih =>
    have happend : ∀ direction, accountedBytes direction (event :: rest) =
        accountedBytes direction [event] + accountedBytes direction rest := by
      intro direction
      rw [← List.singleton_append, accountedBytes, List.filter_append, List.filterMap_append,
        List.filter_append, List.map_append, List.sum_append]
      rfl
    have hevent := bytes_eventPostings event
    rw [List.flatMap_cons, Postings.sum_append, Postings.sum_append, happend, happend, hevent.1, hevent.2,
      ih.1, ih.2]
    exact ⟨rfl, rfl⟩

/-- A latency posts nothing to the counters of packets and bytes. -/
theorem sum_postings_of_ne_latency {counter : FlowCounter} (hsend : counter ≠ .sendLatency)
    (hrecv : counter ≠ .recvLatency) (requests : List Request) :
    Postings.sum (requests.flatMap Request.postings) counter =
      Postings.sum ((requests.flatMap Request.events).flatMap eventPostings) counter := by
  have hlatency : ∀ request : Request, request.latencyPostings.sum counter = 0 := by
    intro request
    cases request with
    | latency key direction nanos =>
      cases direction <;> cases counter <;> first | contradiction | rfl
    | _ => rfl
  induction requests with
  | nil => rfl
  | cons request rest ih =>
    rw [List.flatMap_cons, List.flatMap_cons, List.flatMap_append, Postings.sum_append,
      Postings.sum_append, Request.postings, Postings.sum_append, hlatency, ih, Nat.add_zero]

end Meter

/-- Nothing is lost in a session: every buffer is read or dropped; every event that is read or handed over
is ignored or makes a packet, which a record tells or a flow holds; every record is counted; and the
bytes that records tell and flows hold are those of the packets that are accounted. -/
theorem serve_balanced {settings : Settings} {requests : List Request} {answers : List Answer}
    {meter : Meter} (h : (Meter.ofSettings settings).serve requests = .ok (answers, meter)) :
    meter.counted answers .decoded + meter.counted answers .dropped ≡
        (requests.flatMap Request.buffers).length [MOD 2 ^ 64] ∧
      meter.counted answers .ignored +
          (meter.reported answers .sendPackets + meter.reported answers .recvPackets) ≡
        meter.counted answers .decoded + (requests.flatMap Request.handed).length [MOD 2 ^ 64] ∧
      meter.counted answers .flushed ≡ (answers.flatMap Answer.reported).length [MOD 2 ^ 64] ∧
      meter.reported answers .sendBytes =
        Meter.accountedBytes .outbound (requests.flatMap Request.events) ∧
      meter.reported answers .recvBytes =
        Meter.accountedBytes .inbound (requests.flatMap Request.events) := by
  have hdecoded := Meter.serve_counted h .decoded
  have hposted : ∀ counter : FlowCounter, counter.field?.isSome → counter ≠ .sendLatency →
      counter ≠ .recvLatency → meter.reported answers counter =
        Postings.sum ((requests.flatMap Request.events).flatMap Meter.eventPostings) counter := by
    intro counter hfield hsend hrecv
    rw [Meter.serve_reported h hfield, Meter.sum_postings_of_ne_latency hsend hrecv]
  have hbytes := Meter.bytes_flatMap_eventPostings (requests.flatMap Request.events)
  refine ⟨?_, ?_, Meter.serve_counted h .flushed, ?_, ?_⟩
  · rw [← Meter.length_eventsOf_add_dropped]
    exact hdecoded.add (Meter.serve_counted h .dropped)
  · have hevents : (requests.flatMap Request.events).length =
        (Meter.eventsOf (requests.flatMap Request.buffers)).length +
          (requests.flatMap Request.handed).length := by
      rw [Meter.eventsOf, List.filterMap_flatMap, List.length_flatMap, List.length_flatMap,
        List.length_flatMap, ← List.sum_map_add]
      simp only [Request.events, List.length_append]
      rfl
    rw [hposted .sendPackets rfl (by decide) (by decide), hposted .recvPackets rfl (by decide) (by decide)]
    calc
      _ ≡ (requests.flatMap Request.events).countP Meter.isIgnored + _ [MOD 2 ^ 64] :=
        (Meter.serve_counted h .ignored).add_right _
      _ = (Meter.eventsOf (requests.flatMap Request.buffers)).length +
          (requests.flatMap Request.handed).length := by
        rw [Meter.countP_ignored_add_packets, hevents]
      _ ≡ _ [MOD 2 ^ 64] := hdecoded.symm.add_right _
  · rw [hposted .sendBytes rfl (by decide) (by decide)]
    exact hbytes.1
  · rw [hposted .recvBytes rfl (by decide) (by decide)]
    exact hbytes.2

/-- A buffer and a frame that are dropped, and one each with a packet, in front of a poll and a flush; an
event without a packet, and behind the flush a packet received. -/
def pollAndFlush : List Request :=
  let header : Header := { pid := 7, destinationPort := 80 }
  [.buffer [1, 2, 3], .buffer (Event.ofPacket header ⟨.outbound, .http, .request, 40, []⟩).bytes,
    .frames answeringStream, .poll, .event ⟨header, none⟩, .flush .nothing,
    .event (.ofPacket header ⟨.inbound, .none, .none, 30, []⟩)]

/-- The buffers are in the answer of the poll, the ignored event is in the counters; the packets of the
buffer and of the frame are in a record, the packet received last in a flow. -/
theorem serve_balanced_pollAndFlush :
    ∃ answers meter, (Meter.ofSettings {}).serve pollAndFlush = .ok (answers, meter) ∧
      meter.counters = { ignored := 1, flushed := 1 } ∧ meter.size = 1 ∧
      meter.counted answers .decoded = 2 ∧
      meter.counted answers .decoded + meter.counted answers .dropped ≡ 4 [MOD 2 ^ 64] ∧
      meter.counted answers .ignored +
          (meter.reported answers .sendPackets + meter.reported answers .recvPackets) ≡
        meter.counted answers .decoded + 2 [MOD 2 ^ 64] ∧
      meter.counted answers .flushed ≡ (answers.flatMap Answer.reported).length [MOD 2 ^ 64] ∧
      meter.reported answers .sendBytes = 40 ∧ meter.reported answers .recvBytes = 50 := by
  have hframes (meter : Meter) := meter.onFrames_eq answeringFraming
  have hserve : ∃ answers meter, (Meter.ofSettings {}).serve pollAndFlush = .ok (answers, meter) ∧
      meter.counters = { ignored := 1, flushed := 1 } ∧ meter.size = 1 ∧
      meter.counted answers .decoded = 2 := by
    simp only [pollAndFlush, Meter.serve, Meter.answer, hframes]
    exact ⟨_, _, rfl, rfl, rfl, rfl⟩
  obtain ⟨answers, meter, hanswers, hcounters, hsize, hdecoded⟩ := hserve
  obtain ⟨hbuffers, hevents, hflushed, hsend, hrecv⟩ := serve_balanced hanswers
  have hbodies : Frame.bodies answeringStream = [answeringEvent.bytes, []] :=
    answeringFraming.bodies_eq.symm
  simp only [pollAndFlush, List.flatMap_cons, List.flatMap_nil, Request.events, Request.buffers,
    Request.handed, hbodies] at hbuffers hevents hsend hrecv
  exact ⟨answers, meter, hanswers, hcounters, hsize, hdecoded, hbuffers, hevents, hflushed, hsend,
    hrecv⟩

end FlowMeter
