import ServiceAtlas.Client
import ServiceAtlas.Proofs.JsonReadBack
import ServiceAtlas.Proofs.Runs

/-!
A request that is sent again. What the service would answer to it, time after time, is a sequence. A
request uses up a beginning of that sequence, waits between any two answers, each time twice as long as
the time before, and comes to what its last answer says.
-/

namespace ServiceAtlas
open Program

/-! ### What the service would answer -/

namespace World

/-- The answer to a request that was sent so many times before. -/
def upcoming (q : Http.Request) (rules : List Rule) : Nat → Http.Outcome
  | 0 => (respond q rules).1
  | n + 1 => upcoming q (respond q rules).2 n

/-- The rules after a request was answered so many times. -/
def rulesAfter (q : Http.Request) (rules : List Rule) : Nat → List Rule
  | 0 => rules
  | n + 1 => rulesAfter q (respond q rules).2 n

/-- A service can be set up to answer in any way for any number of times. -/
theorem exists_upcoming (q : Http.Request) (first : Http.Outcome) (rest : List Http.Outcome) :
    ∃ rules, ∀ i (h : i < (first :: rest).length), upcoming q rules i = (first :: rest)[i] := by
  refine ⟨[⟨q.path, none, first :: rest⟩], ?_⟩
  induction rest generalizing first with
  | nil =>
    intro i h
    obtain rfl : i = 0 := by simpa using h
    simp [upcoming, respond, Rule.accepts, Rule.reply]
  | cons second rest ih =>
    intro i h
    cases i with
    | zero => simp [upcoming, respond, Rule.accepts, Rule.reply]
    | succ i =>
      have hnext := ih second i (by simpa using h)
      simpa [upcoming, respond, Rule.accepts, Rule.reply] using hnext

end World

/-- After such an answer a request is not sent again, whatever tries are left. -/
def Http.Outcome.settles : Http.Outcome → Bool
  | .reply a => a.status < 500
  | .networkError _ => false
  | .protocolError _ => true

namespace Client

/-- Of the answers to a request with so many retries, the one with number `k` is the last that is asked
for. -/
structure IsLast (answers : Nat → Http.Outcome) (retries k : Nat) : Prop where
  le : k ≤ retries
  before : ∀ i < k, (answers i).settles = false
  settles : k < retries → (answers k).settles = true

theorem IsLast.unique {answers : Nat → Http.Outcome} {retries k l : Nat}
    (hk : IsLast answers retries k) (hl : IsLast answers retries l) : k = l := by
  rcases Nat.lt_trichotomy k l with h | h | h
  · cases (hl.before k h).symm.trans (hk.settles (Nat.lt_of_lt_of_le h hl.le))
  · exact h
  · cases (hk.before l h).symm.trans (hl.settles (Nat.lt_of_lt_of_le h hk.le))

theorem isLast_zero {answers : Nat → Http.Outcome} {retries : Nat}
    (h : retries = 0 ∨ (answers 0).settles = true) : IsLast answers retries 0 where
  le := Nat.zero_le _
  before _ hi := absurd hi (Nat.not_lt_zero _)
  settles hpos := h.resolve_left (Nat.ne_of_gt hpos)

theorem IsLast.succ {answers : Nat → Http.Outcome} {retries k : Nat}
    (h : IsLast (fun i => answers (i + 1)) retries k) (hfirst : (answers 0).settles = false) :
    IsLast answers (retries + 1) (k + 1) where
  le := Nat.succ_le_succ h.le
  before i hi := by
    cases i with
    | zero => exact hfirst
    | succ i => exact h.before i (Nat.lt_of_succ_lt_succ hi)
  settles hk := h.settles (Nat.lt_of_succ_lt_succ hk)

/-! ### What passes over the network -/

/-- A request that is sent until the answer with number `k` is there. The first wait lasts `2 ^ first`
seconds. -/
def exchange (q : Http.Request) (first k : Nat) : List Signal :=
  ((List.range k).flatMap fun i => [.sent q, .slept (2 ^ (first + i))]) ++ [.sent q]

theorem exchange_succ (q : Http.Request) (first k : Nat) :
    exchange q first (k + 1) = [.sent q, .slept (2 ^ first)] ++ exchange q (first + 1) k := by
  simp only [exchange, List.range_succ_eq_map, List.flatMap_cons, List.flatMap_map,
    List.append_assoc, Nat.add_zero, Nat.succ_eq_add_one, Nat.add_assoc, Nat.add_comm 1]

/-- The machine after a request was answered `k + 1` times. -/
def afterExchange (w : World) (q : Http.Request) (first k : Nat) : World :=
  { w with
    rules := World.rulesAfter q w.rules (k + 1)
    signals := w.signals ++ exchange q first k }

/-- One try that is followed by another. -/
theorem afterExchange_succ (w : World) (q : Http.Request) (first k : Nat) :
    afterExchange w q first (k + 1) =
      afterExchange
        (((w.handle (.send q)).2.handle (.sleep (2 ^ first))).2) q (first + 1) k := by
  simp only [afterExchange, World.handle, exchange_succ, World.rulesAfter, List.append_assoc,
    List.cons_append, List.nil_append]

theorem retryAfter?_eq_none_iff {delay attempt retries : Nat} {o : Http.Outcome} :
    retryAfter? delay attempt retries o = none ↔ o.settles = true := by
  cases o with
  | reply a =>
    by_cases h : a.status < 500 <;> simp [retryAfter?, Http.Outcome.settles, serverErrors, h]
  | networkError reason => simp [retryAfter?, Http.Outcome.settles]
  | protocolError reason => simp [retryAfter?, Http.Outcome.settles]

/-- The try that is the last one. -/
theorem run_sendUpTo_last (c : Client) (q : Http.Request) (retries left : Nat) (w : World)
    (h : left = 0 ∨ (World.respond q w.rules).1.settles = true) :
    ((c.sendUpTo q retries left).run w).result = c.conclude retries (World.respond q w.rules).1 ∧
      ((c.sendUpTo q retries left).run w).world = (w.handle (.send q)).2 := by
  cases left with
  | zero =>
    rw [sendUpTo, run_bind_of_quiet (run_request (.send q) w), run_ofExcept]
    exact ⟨rfl, rfl⟩
  | succ left =>
    have hsettles := h.resolve_left (Nat.succ_ne_zero left)
    rw [sendUpTo, run_bind_of_quiet (run_request (.send q) w)]
    dsimp only [World.handle]
    rw [retryAfter?_eq_none_iff.mpr hsettles, run_ofExcept]
    exact ⟨rfl, rfl⟩

/-- A try after which the request is sent again. -/
theorem run_sendUpTo_again (c : Client) (q : Http.Request) (retries left : Nat) (w : World)
    (h : (World.respond q w.rules).1.settles = false) :
    let again := (c.sendUpTo q retries left).run
      ((w.handle (.send q)).2.handle (.sleep (2 ^ (retries - (left + 1))))).2
    ((c.sendUpTo q retries (left + 1)).run w).result = again.result ∧
      ((c.sendUpTo q retries (left + 1)).run w).world = again.world := by
  intro again
  rw [sendUpTo, run_bind_of_quiet (run_request (.send q) w)]
  dsimp only [World.handle]
  cases hnote : retryAfter? (delayAfter (retries - (left + 1))) (retries - (left + 1) + 1) retries
      (World.respond q w.rules).1 with
  | none =>
    rw [retryAfter?_eq_none_iff.mp hnote] at h
    cases h
  | some d => exact ⟨rfl, rfl⟩

/-- A request asks for answers up to the last that counts, and comes to what that one says. -/
theorem run_sendUpTo (c : Client) (q : Http.Request) (retries left : Nat) (hleft : left ≤ retries)
    (w : World) :
    ∃ k, IsLast (World.upcoming q w.rules) left k ∧
      ((c.sendUpTo q retries left).run w).result =
        c.conclude retries (World.upcoming q w.rules k) ∧
      ((c.sendUpTo q retries left).run w).world =
        afterExchange w q (retries - left) k := by
  induction left generalizing w with
  | zero =>
    obtain ⟨hresult, hworld⟩ := run_sendUpTo_last c q retries 0 w (.inl rfl)
    exact ⟨0, isLast_zero (.inl rfl), hresult, hworld⟩
  | succ left ih =>
    cases hsettles : (World.respond q w.rules).1.settles with
    | true =>
      obtain ⟨hresult, hworld⟩ := run_sendUpTo_last c q retries (left + 1) w (.inr hsettles)
      exact ⟨0, isLast_zero (.inr hsettles), hresult, hworld⟩
    | false =>
      obtain ⟨hresult, hworld⟩ := run_sendUpTo_again c q retries left w hsettles
      obtain ⟨k, hlast, hagain, hafter⟩ := ih (Nat.le_of_succ_le hleft)
        ((w.handle (.send q)).2.handle (.sleep (2 ^ (retries - (left + 1))))).2
      refine ⟨k + 1, hlast.succ hsettles, hresult.trans hagain, ?_⟩
      rw [hworld, hafter, afterExchange_succ]
      congr 1
      omega

/-- A request that has tries left takes them until an answer counts. -/
theorem run_send [Stack] {c : Client} {method path : String} {query : Url.Query} {q : Http.Request}
    (hq : c.requestFor method path query = .ok q) (hpos : 0 ≤ c.service.maxRetries) (w : World) :
    ∃ k, IsLast (World.upcoming q w.rules) c.service.maxRetries.toNat k ∧
      ((c.send method path query).run w).result =
        c.conclude c.service.maxRetries.toNat (World.upcoming q w.rules k) >>= accept q ∧
      ((c.send method path query).run w).world = afterExchange w q 0 k := by
  obtain ⟨k, hlast, hresult, hworld⟩ :=
    run_sendUpTo c q c.service.maxRetries.toNat c.service.maxRetries.toNat (Nat.le_refl _) w
  obtain ⟨hsend, hsent⟩ := run_bind_ofExcept
    (c.sendUpTo q c.service.maxRetries.toNat c.service.maxRetries.toNat) (accept q) w
  have hrun : (c.send method path query).run w =
      (c.sendUpTo q c.service.maxRetries.toNat c.service.maxRetries.toNat >>=
        fun a => ofExcept (accept q a)).run w := by
    rw [send, if_neg (Int.not_lt.mpr hpos), hq]
    rfl
  refine ⟨k, hlast, ?_, ?_⟩
  · rw [hrun, hsend, hresult]
  · rw [hrun, hsent, hworld, Nat.sub_self]

/-- A request that has no try is not sent. -/
theorem run_send_of_neg [Stack] {c : Client} {method path : String} {query : Url.Query}
    (hneg : c.service.maxRetries < 0) (w : World) :
    (c.send method path query).run w = ⟨.error .retriesSpent, [], w⟩ := by
  rw [send, if_pos hneg]
  rfl

end Client

/-! ### Bodies that cannot be looked into -/

namespace Json

theorem skipSpace_brackets (n : Nat) :
    skipSpace (List.replicate n '[') = List.replicate n '[' := by
  cases n with
  | zero => rfl
  | succ n => exact skipSpace_cons rfl

/-- A text that opens more lists than there are levels is too deep. -/
theorem readValue_brackets (digits levels more : Nat) {fuel : Nat} (hfuel : 2 * levels < fuel) :
    ∃ rest, readValue digits fuel levels (List.replicate (levels + more + 1) '[') =
      .error ⟨.tooDeep, rest⟩ := by
  induction levels generalizing fuel with
  | zero =>
    obtain ⟨fuel, rfl⟩ := Nat.exists_eq_add_of_lt hfuel
    rw [List.replicate_succ, readValue]
    exact ⟨_, rfl⟩
  | succ levels ih =>
    obtain ⟨fuel, rfl⟩ : ∃ f, fuel = f + 2 := ⟨fuel - 2, by omega⟩
    obtain ⟨rest, hrest⟩ := ih (show 2 * levels < fuel by omega)
    have hopen : List.replicate (levels + 1 + more + 1) '[' =
        '[' :: List.replicate (levels + more + 1) '[' := by
      rw [← List.replicate_succ, Nat.add_right_comm levels 1 more]
    have hfirst : ∀ rest, List.replicate (levels + more + 1) '[' ≠ ']' :: rest := by
      simp [List.replicate_succ]
    refine ⟨rest, ?_⟩
    rw [hopen, readValue_list (skipSpace_brackets _) hfirst, readItems, hrest]
    rfl

theorem readWhole_brackets [Stack] {n : Nat} (h : Stack.levels .readJson < n) :
    ∃ e, readWhole (List.replicate n '[') = .error e ∧ e.cause = .tooDeep := by
  obtain ⟨more, rfl⟩ := Nat.exists_eq_add_of_lt h
  have hfuel : 2 * Stack.levels .readJson < fuelFor (List.replicate (Stack.levels .readJson + more + 1) '[') := by
    simp only [fuelFor, List.length_replicate]
    omega
  obtain ⟨rest, hrest⟩ := readValue_brackets Text.digitLimit (Stack.levels .readJson) more hfuel
  have hread : readWhole (List.replicate (Stack.levels .readJson + more + 1) '[') =
      .error (Fault.within (List.replicate (Stack.levels .readJson + more + 1) '[') ⟨.tooDeep, rest⟩) := by
    rw [readWhole, skipSpace_brackets, hrest]
  exact ⟨_, hread, rfl⟩

end Json

namespace Text

theorem decodeBy_brackets (n position : Nat) :
    decodeBy "utf-8" leadWithHalves position 0 (List.replicate n 0x5B) =
      .ok (List.replicate n '[') := by
  induction n generalizing position with
  | zero => rfl
  | succ n ih =>
    have hlead : ∀ rest, leadWithHalves 0x5B rest = .char '[' 1 := by
      intro rest
      match rest with
      | [] => rfl
      | [_] => rfl
      | _ :: _ :: _ => rfl
    rw [List.replicate_succ, decodeBy, hlead]
    dsimp only
    rw [ih]
    rfl

/-- Four bytes are enough to tell the encoding. -/
theorem decodeAny_brackets (n : Nat) :
    decodeAny (List.replicate (n + 4) 0x5B) = .ok (List.replicate (n + 4) '[') :=
  decodeBy_brackets (n + 4) 0

end Text

namespace Client

section
variable [Stack]

/-- The lists and objects in a body stand deeper inside each other than the reader follows. -/
def TooDeep (body : Text.Bytes) : Prop :=
  ∃ fault, readJson body = .error fault ∧ fault.isTooDeep = true

/-- Every body gives some detail for a message, unless it is too deep. -/
theorem detailOf_cases (a : Http.Reply) :
    TooDeep a.body ∧ detailOf a = .error .nestedTooDeep ∨
      ¬TooDeep a.body ∧ ∃ detail, detailOf a = .ok detail := by
  unfold detailOf
  cases hread : readJson a.body with
  | ok v => exact .inr ⟨fun ⟨_, h, _⟩ => by simp [hread] at h, _, rfl⟩
  | error fault =>
    cases hdeep : fault.isTooDeep with
    | true => exact .inl ⟨⟨fault, hread, hdeep⟩, by simp [hdeep]⟩
    | false =>
      refine .inr ⟨fun ⟨other, h, h'⟩ => ?_, String.ofList (a.text.take detailLimit),
        by simp [hdeep]⟩
      obtain rfl := Except.error.inj (hread.symm.trans h)
      cases hdeep.symm.trans h'

/-- A body may open more lists than the reader follows. -/
theorem tooDeep_brackets {n : Nat} (h : Stack.levels .readJson < n) :
    TooDeep (List.replicate n 0x5B) := by
  obtain ⟨e, hread, hcause⟩ := Json.readWhole_brackets h
  have hdecode : Text.decodeAny (List.replicate n 0x5B) = .ok (List.replicate n '[') := by
    have hample := Stack.ample .readJson
    obtain ⟨m, rfl⟩ : ∃ m, n = m + 4 := ⟨n - 4, by omega⟩
    exact Text.decodeAny_brackets m
  refine ⟨.json e, ?_, ?_⟩
  · rw [readJson, hdecode]
    exact congrArg (Except.mapError BodyFault.json) hread
  · simp only [BodyFault.isTooDeep, hcause]

/-! ### What comes of a request -/

/-- The result is a failure that belongs to a family. -/
def FailsWith (f : Failure) (family : Family) (result : Except Failure Http.Reply) : Prop :=
  result = .error f ∧ f.family? = some family

/-- What the last answer makes of a request, whatever came before it. -/
def Answers (c : Client) (q : Http.Request) (last : Http.Outcome)
    (result : Except Failure Http.Reply) : Prop :=
  match last with
  | .networkError reason =>
    FailsWith (.unreachable c.service.baseUrl (c.service.maxRetries + 1) reason) .connection result
  | .protocolError _ => result = .error .brokenReply
  | .reply a =>
    if a.status < 400 then result = .ok a
    else ∃ detail, detailOf a = .ok detail ∧
      FailsWith (.refused a.status q.path detail)
        (if a.status = 401 ∨ a.status = 403 then .auth
          else if a.status = 404 then .notFound else .server) result

/-- How a request takes its course: answers are asked for up to the last that counts, with a wait
between any two, and the last one decides. Only without any try are the retries spent. -/
structure Course (c : Client) (q : Http.Request) (w : World) (r : Run Http.Reply) : Prop where
  tries : 0 ≤ c.service.maxRetries →
    ∃ k, IsLast (World.upcoming q w.rules) c.service.maxRetries.toNat k ∧
      r.world = afterExchange w q 0 k ∧
      Answers c q (World.upcoming q w.rules k) r.result
  unsent : c.service.maxRetries < 0 → r.world = w
  spent : r.result = .error .retriesSpent ↔ c.service.maxRetries < 0

/-- The last answer to a request refuses it, with a body that is too deep. -/
def EndsTooDeep (c : Client) (q : Http.Request) (w : World) : Prop :=
  0 ≤ c.service.maxRetries ∧
    ∃ k a, IsLast (World.upcoming q w.rules) c.service.maxRetries.toNat k ∧
      World.upcoming q w.rules k = .reply a ∧ 400 ≤ a.status ∧ TooDeep a.body

theorem accept_of_lt {q : Http.Request} {a : Http.Reply} (h : a.status < 400) :
    accept q a = .ok a := if_pos h

theorem accept_of_not_lt {q : Http.Request} {a : Http.Reply} (h : ¬a.status < 400) :
    accept q a = (do throw (.refused a.status q.path (← detailOf a))) := if_neg h

/-- A reply decides, unless it is a refusal that cannot be looked into. -/
theorem answers_reply_iff (c : Client) (q : Http.Request) (a : Http.Reply) :
    Answers c q (.reply a) (accept q a) ↔ (400 ≤ a.status → ¬TooDeep a.body) := by
  simp only [Answers]
  by_cases hstatus : a.status < 400
  · rw [if_pos hstatus, accept_of_lt hstatus]
    exact iff_of_true rfl fun h => absurd hstatus (Nat.not_lt.mpr h)
  · rw [if_neg hstatus, accept_of_not_lt hstatus]
    rcases detailOf_cases a with ⟨hdeep, hdetail⟩ | ⟨hdeep, detail, hdetail⟩
    · refine iff_of_false ?_ fun h => h (Nat.not_lt.mp hstatus) hdeep
      rintro ⟨detail, h, _⟩
      cases hdetail.symm.trans h
    · refine iff_of_true ⟨detail, hdetail, ?_, rfl⟩ fun _ => hdeep
      rw [hdetail]
      rfl

/-- The last answer decides, unless it is a refusal that cannot be looked into. -/
theorem answers_iff {c : Client} (q : Http.Request) (hpos : 0 ≤ c.service.maxRetries)
    (last : Http.Outcome) :
    Answers c q last (c.conclude c.service.maxRetries.toNat last >>= accept q) ↔
      ∀ a, last = .reply a → 400 ≤ a.status → ¬TooDeep a.body := by
  cases last with
  | reply a =>
    refine (answers_reply_iff c q a).trans ⟨?_, fun h => h a rfl⟩
    rintro h b ⟨⟩
    exact h
  | networkError reason =>
    refine iff_of_true ⟨?_, rfl⟩ nofun
    simp only [conclude, Int.toNat_of_nonneg hpos]
    rfl
  | protocolError reason => exact iff_of_true rfl nofun

/-- Nothing that a try comes to is the failure for a lack of tries. -/
theorem conclude_ne_spent (c : Client) (q : Http.Request) (retries : Nat) (last : Http.Outcome) :
    c.conclude retries last >>= accept q ≠ .error .retriesSpent := by
  cases last with
  | networkError reason => nofun
  | protocolError reason => nofun
  | reply a =>
    change accept q a ≠ _
    by_cases hstatus : a.status < 400
    · rw [accept_of_lt hstatus]
      nofun
    · rw [accept_of_not_lt hstatus]
      rcases detailOf_cases a with ⟨_, hdetail⟩ | ⟨_, detail, hdetail⟩
      · rw [hdetail]
        nofun
      · rw [hdetail]
        nofun

/-- A request takes its course in all cases but one: its last answer is a refusal with a body that is
too deep. -/
theorem send_course_iff {c : Client} {method path : String} {query : Url.Query} {q : Http.Request}
    (hq : c.requestFor method path query = .ok q) (w : World) :
    Course c q w ((c.send method path query).run w) ↔ ¬EndsTooDeep c q w := by
  by_cases hneg : c.service.maxRetries < 0
  · rw [run_send_of_neg hneg]
    refine iff_of_true ⟨fun h => absurd hneg (Int.not_lt.mpr h), fun _ => rfl, iff_of_true rfl hneg⟩ ?_
    rintro ⟨h, _⟩
    exact absurd hneg (Int.not_lt.mpr h)
  · have hpos := Int.not_lt.mp hneg
    obtain ⟨k, hlast, hresult, hworld⟩ := run_send hq hpos w
    constructor
    · rintro ⟨htries, _, _⟩ ⟨_, l, a, hl, hreply, hrefusal, hdeep⟩
      obtain ⟨m, hm, _, hanswers⟩ := htries hpos
      obtain rfl := hm.unique hlast
      obtain rfl := hl.unique hlast
      rw [hresult] at hanswers
      exact (answers_iff q hpos _).mp hanswers a hreply hrefusal hdeep
    · intro hends
      refine ⟨fun _ => ⟨k, hlast, hworld, ?_⟩, fun h => absurd h (Int.not_lt.mpr hpos), ?_⟩
      · rw [hresult]
        refine (answers_iff q hpos _).mpr fun a hreply hrefusal hdeep => ?_
        exact hends ⟨hpos, k, a, hlast, hreply, hrefusal, hdeep⟩
      · rw [hresult]
        exact iff_of_false (conclude_ne_spent c q _ _) (Int.not_lt.mpr hpos)

end

/-- A client with two retries, and what it asks for. -/
def sampleClient : Client where
  service := { port := some 1, maxRetries := 2 }
  base :=
    { scheme := "https".toList, userinfo := [], host := "127.0.0.1".toList, port := some 1,
      path := ['/'], query := none, fragment := none }
  authorization := none

def sampleRequest : Http.Request :=
  ⟨"GET", { sampleClient.base with path := "/help".toList }, [], none⟩

theorem requestFor_sample : sampleClient.requestFor "GET" "/help" [] = .ok sampleRequest :=
  eq_ok_of_toOption (by decide +kernel)

/-- A machine with a service that gives some answers to a request for help. -/
def answering (answers : List Http.Outcome) : World := { rules := [⟨"/help", none, answers⟩] }

open Stack.Usual in
/-- A network error and a fault of the service are overcome. -/
theorem send_course_overcoming :
    let w := answering [.networkError "reset", .reply { status := 503, body := [] },
      .reply { status := 200, body := [] }]
    sampleClient.requestFor "GET" "/help" [] = .ok sampleRequest ∧
      ¬EndsTooDeep sampleClient sampleRequest w ∧
      Course sampleClient sampleRequest w ((sampleClient.send "GET" "/help" []).run w) := by
  intro w
  have hlast : IsLast (World.upcoming sampleRequest w.rules) 2 2 :=
    ⟨Nat.le_refl 2, by decide +kernel, fun h => absurd h (Nat.lt_irrefl 2)⟩
  have hends : ¬EndsTooDeep sampleClient sampleRequest w := by
    rintro ⟨_, k, a, hk, hreply, hrefusal, _⟩
    obtain rfl := hk.unique hlast
    have hanswer : World.upcoming sampleRequest w.rules 2 =
        .reply { status := 200, body := [] } := by decide +kernel
    obtain rfl := Http.Outcome.reply.inj (hanswer.symm.trans hreply)
    exact absurd hrefusal (by decide)
  exact ⟨requestFor_sample, hends, (send_course_iff requestFor_sample w).mpr hends⟩

/-- A refusal that cannot be looked into comes to no failure of a family. -/
theorem send_tooDeep [Stack] {a : Http.Reply} (hstatus : a.status = 404) (h : TooDeep a.body) :
    let w := answering [.reply a]
    ((sampleClient.send "GET" "/help" []).run w).result = .error .nestedTooDeep ∧
      ¬Course sampleClient sampleRequest w ((sampleClient.send "GET" "/help" []).run w) := by
  intro w
  have hpath : sampleRequest.path = "/help" := by decide +kernel
  have hanswer : World.upcoming sampleRequest w.rules 0 = .reply a := by
    simp [w, answering, World.upcoming, World.respond, Rule.accepts, Rule.reply, hpath]
  have hfirst : IsLast (World.upcoming sampleRequest w.rules) 2 0 := by
    refine isLast_zero (.inr ?_)
    rw [hanswer, Http.Outcome.settles, hstatus]
    rfl
  have hrefused : ¬a.status < 400 := by omega
  have hdetail : detailOf a = .error .nestedTooDeep := by
    rcases detailOf_cases a with ⟨_, hdetail⟩ | ⟨hnot, _⟩
    · exact hdetail
    · exact absurd h hnot
  constructor
  · obtain ⟨k, hlast, hresult, _⟩ := run_send requestFor_sample (by decide) w
    obtain rfl := hlast.unique hfirst
    rw [hresult, hanswer]
    change accept sampleRequest a = _
    rw [accept_of_not_lt hrefused, hdetail]
    rfl
  · intro hcourse
    obtain ⟨k, hlast, _, hanswers⟩ := hcourse.tries (by decide)
    obtain rfl := hlast.unique hfirst
    rw [hanswer, Answers, if_neg hrefused] at hanswers
    obtain ⟨detail, hok, _⟩ := hanswers
    cases hdetail.symm.trans hok

open Stack.Usual in
theorem send_brackets :
    let w := answering [.reply { status := 404, body := List.replicate 1000 0x5B }]
    sampleClient.requestFor "GET" "/help" [] = .ok sampleRequest ∧
      ((sampleClient.send "GET" "/help" []).run w).result = .error .nestedTooDeep ∧
      ¬Course sampleClient sampleRequest w ((sampleClient.send "GET" "/help" []).run w) :=
  ⟨requestFor_sample, send_tooDeep rfl (tooDeep_brackets (by decide))⟩

end Client
end ServiceAtlas
