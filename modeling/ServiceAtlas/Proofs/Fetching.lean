import ServiceAtlas.Proofs.Retries

/-!
What a client fetches comes back as an object or as a failure that belongs to a family. The program
does not foresee every answer, though: one that breaks the protocol and one with a body that is too
deep end in a failure outside every family, and so does a request that cannot be made.
-/

namespace ServiceAtlas
open Program

section
variable {α β : Type}

/-- A result is foreseen unless it is a failure outside every family. -/
def Foreseen (result : Except Failure α) : Prop := ∀ f, result = .error f → f.family?.isSome = true

/-- Every failure lies outside the families. -/
def Strays (result : Except Failure α) : Prop := ∀ f, result = .error f → f.family? = none

theorem foreseen_ok (a : α) : Foreseen (.ok a : Except Failure α) := nofun

theorem foreseen_error_iff {f : Failure} :
    Foreseen (.error f : Except Failure α) ↔ f.family?.isSome = true := by
  refine ⟨fun h => h f rfl, ?_⟩
  rintro h _ ⟨⟩
  exact h

theorem strays_ok (a : α) : Strays (.ok a : Except Failure α) := nofun

theorem strays_error {f : Failure} (h : f.family? = none) : Strays (.error f : Except Failure α) := by
  rintro _ ⟨⟩
  exact h

theorem Strays.bind {x : Except Failure α} {g : α → Except Failure β} (hx : Strays x)
    (hg : ∀ a, Strays (g a)) : Strays (x >>= g) := by
  cases x with
  | ok a => exact hg a
  | error f => exact strays_error (hx f rfl)

end

namespace Client

/-! ### Requests that cannot be made -/

theorem strays_address (url : Except Url.Fault Url) : Strays (address url) := by
  cases url with
  | ok url => exact strays_ok url
  | error fault => cases fault <;> exact strays_error rfl

theorem strays_authorizationFor (c : Client) (url : Url) : Strays (c.authorizationFor url) := by
  unfold authorizationFor
  split
  · rename_i name secret _
    unfold Credential.basicHeader
    split
    · exact strays_ok _
    · exact strays_error rfl
  · exact strays_ok _

/-- No family has a failure for a request that cannot be made. -/
theorem strays_requestFor (c : Client) (method path : String) (query : Url.Query) :
    Strays (c.requestFor method path query) := by
  refine (strays_address _).bind fun reference => (strays_address _).bind fun url =>
    (strays_address _).bind fun url => ?_
  split
  · exact (strays_error rfl).bind fun _ =>
      (strays_authorizationFor c url).bind fun _ => strays_ok _
  · exact (strays_authorizationFor c url).bind fun _ => strays_ok _

/-! ### Answers -/

section
variable [Stack]

/-- An answer that the program does not foresee. -/
def Unforeseen : Http.Outcome → Prop
  | .reply a => TooDeep a.body
  | .networkError _ => False
  | .protocolError _ => True

/-- The object in a body comes back, or a failure that says what is wrong with the body. -/
theorem foreseen_objectOf_iff (label : String) (body : Text.Bytes) :
    Foreseen (objectOf label body) ↔ ¬TooDeep body := by
  unfold objectOf
  split
  · rename_i hempty
    obtain rfl := List.isEmpty_iff.mp hempty
    refine iff_of_true (foreseen_error_iff.mpr rfl) ?_
    rintro ⟨fault, hread, hdeep⟩
    cases hread
    cases hdeep
  · cases hread : readJson body with
    | error fault =>
      rw [foreseen_error_iff]
      cases hdeep : fault.isTooDeep with
      | true => exact iff_of_false nofun fun h => h ⟨fault, hread, hdeep⟩
      | false =>
        refine iff_of_true rfl ?_
        rintro ⟨other, h, h'⟩
        obtain rfl := Except.error.inj (hread.symm.trans h)
        cases hdeep.symm.trans h'
    | ok v =>
      refine iff_of_true ?_ fun ⟨_, h, _⟩ => by cases hread.symm.trans h
      cases v with
      | object fields => exact foreseen_ok fields
      | _ => exact foreseen_error_iff.mpr rfl

/-- What the last answer comes to is foreseen exactly if the answer is. -/
theorem foreseen_answer_iff (c : Client) (q : Http.Request) (retries : Nat) (label : String)
    (last : Http.Outcome) :
    Foreseen ((c.conclude retries last >>= accept q) >>= fun a => objectOf label a.body) ↔
      ¬Unforeseen last := by
  cases last with
  | networkError reason => exact iff_of_true (foreseen_error_iff.mpr rfl) id
  | protocolError reason =>
    refine iff_of_false (fun h => ?_) fun h => h trivial
    cases h _ rfl
  | reply a =>
    change Foreseen (accept q a >>= fun a => objectOf label a.body) ↔ ¬TooDeep a.body
    by_cases hstatus : a.status < 400
    · rw [accept_of_lt hstatus]
      exact foreseen_objectOf_iff label a.body
    · rw [accept_of_not_lt hstatus]
      rcases detailOf_cases a with ⟨hdeep, hdetail⟩ | ⟨hdeep, detail, hdetail⟩
      · rw [hdetail]
        refine iff_of_false (fun h => ?_) fun h => h hdeep
        cases h _ rfl
      · rw [hdetail]
        exact iff_of_true (foreseen_error_iff.mpr rfl) hdeep

/-! ### What is fetched -/

/-- A request goes astray if it cannot be made, or if the last answer to it is not foreseen. Without
any try it is not made at all. -/
def GoesAstray (c : Client) (path : String) (query : Url.Query) (w : World) : Prop :=
  0 ≤ c.service.maxRetries ∧
    ((∃ f, c.requestFor "GET" path query = .error f) ∨
      ∃ q k, c.requestFor "GET" path query = .ok q ∧
        IsLast (World.upcoming q w.rules) c.service.maxRetries.toNat k ∧
        Unforeseen (World.upcoming q w.rules k))

theorem run_send_of_error {c : Client} {method path : String} {query : Url.Query} {f : Failure}
    (hq : c.requestFor method path query = .error f) (hpos : 0 ≤ c.service.maxRetries) (w : World) :
    (c.send method path query).run w = ⟨.error f, [], w⟩ := by
  rw [send, if_neg (Int.not_lt.mpr hpos), hq]
  rfl

theorem foreseen_object_iff (c : Client) (path : String) (query : Url.Query) (label : String)
    (w : World) :
    Foreseen ((c.send "GET" path query >>= fun a => ofExcept (objectOf label a.body)).run w).result ↔
      ¬GoesAstray c path query w := by
  rw [(run_bind_ofExcept (c.send "GET" path query) (fun a => objectOf label a.body) w).1]
  by_cases hpos : 0 ≤ c.service.maxRetries
  · cases hq : c.requestFor "GET" path query with
    | error f =>
      rw [run_send_of_error hq hpos]
      refine iff_of_false (fun h => ?_) fun h => h ⟨hpos, .inl ⟨f, hq⟩⟩
      have hfamily := h f rfl
      rw [strays_requestFor c _ _ _ f hq] at hfamily
      cases hfamily
    | ok q =>
      obtain ⟨k, hlast, hresult, _⟩ := run_send hq hpos w
      rw [hresult, foreseen_answer_iff]
      refine not_congr ⟨fun h => ⟨hpos, .inr ⟨q, k, hq, hlast, h⟩⟩, ?_⟩
      rintro ⟨_, ⟨f, h⟩ | ⟨q', l, h, hl, hunforeseen⟩⟩
      · cases hq.symm.trans h
      · obtain rfl := Except.ok.inj (hq.symm.trans h)
        obtain rfl := hl.unique hlast
        exact hunforeseen
  · rw [run_send_of_neg (Int.not_le.mp hpos)]
    exact iff_of_true (foreseen_error_iff.mpr rfl) fun h => hpos h.1

/-- All that a client fetches is foreseen, unless the request for it goes astray: an object comes
back, or a failure of some family. -/
theorem fetch_foreseen_iff (c : Client) (w : World) :
    (∀ format, Foreseen ((c.fetchHelp format).run w).result ↔
      (format ∈ Failure.helpFormats →
        ¬GoesAstray c c.service.helpPath [("format", [format])] w)) ∧
    (Foreseen (c.fetchAppInfo.run w).result ↔
      (c.service.appInfoPath ≠ "" → ¬GoesAstray c c.service.appInfoPath [] w)) := by
  constructor
  · intro format
    unfold fetchHelp
    by_cases hformat : format ∈ Failure.helpFormats
    · rw [if_neg (by simpa using hformat), foreseen_object_iff]
      exact ⟨fun h _ => h, fun h => h hformat⟩
    · rw [if_pos (by simpa using hformat)]
      exact iff_of_true (foreseen_error_iff.mpr rfl) fun h => absurd h hformat
  · unfold fetchAppInfo
    by_cases hpath : c.service.appInfoPath = ""
    · rw [if_pos hpath]
      exact iff_of_true (foreseen_ok []) fun h => absurd hpath h
    · rw [if_neg hpath, foreseen_object_iff]
      exact ⟨fun h _ => h, fun h => h hpath⟩

/-! ### All parts -/

omit [Stack] in
theorem gather_ok_iff {baseUrl : String} {appInfo console full : Except Failure (Table Value)}
    {p : Payloads} : gather baseUrl appInfo console full = .ok p ↔
      appInfo = .ok p.appInfo ∧ console = .ok p.console ∧ full = .ok p.full ∧
        p.baseUrl = some baseUrl := by
  simp only [gather, bind_eq_ok_iff]
  constructor
  · rintro ⟨_, ha, _, hc, _, hf, h⟩
    obtain rfl := Except.ok.inj h
    exact ⟨ha, hc, hf, rfl⟩
  · rintro ⟨ha, hc, hf, hbase⟩
    exact ⟨_, ha, _, hc, _, hf, by rw [← hbase]; rfl⟩

omit [Stack] in
/-- What fails is one of the parts. -/
theorem gather_error {baseUrl : String} {appInfo console full : Except Failure (Table Value)}
    {e : Failure} (h : gather baseUrl appInfo console full = .error e) :
    appInfo = .error e ∨ console = .error e ∨ full = .error e := by
  cases appInfo with
  | error f =>
    cases h
    exact .inl rfl
  | ok _ =>
    cases console with
    | error f =>
      cases h
      exact .inr (.inl rfl)
    | ok _ =>
      cases full with
      | error f =>
        cases h
        exact .inr (.inr rfl)
      | ok _ => cases h

/-- The parts are asked for one after the other, also if one of them fails. -/
theorem result_fetchAll (c : Client) (w : World) :
    ((c.fetchAll).run w).result =
      let info := c.fetchAppInfo.run w
      let console := (c.fetchHelp "Console").run info.world
      let full := (c.fetchHelp "Full").run console.world
      gather c.service.baseUrl info.result console.result full.result := by
  obtain ⟨hinfo, hinfoWorld⟩ := run_attempt c.fetchAppInfo w
  obtain ⟨hconsole, hconsoleWorld⟩ :=
    run_attempt (c.fetchHelp "Console") (c.fetchAppInfo.run w).world
  obtain ⟨hfull, _⟩ := run_attempt (c.fetchHelp "Full")
    ((c.fetchHelp "Console").run (c.fetchAppInfo.run w).world).world
  rw [fetchAll, result_bind_of_ok (show ((note _).run w).result = .ok () from rfl)]
  change ((attempt c.fetchAppInfo >>= _).run w).result = _
  rw [result_bind_of_ok hinfo, hinfoWorld, result_bind_of_ok hconsole, hconsoleWorld,
    (run_bind_ofExcept _ _ _).1, hfull]
  rfl

/-- Everything is fetched exactly if each part is. A failure is that of a part: whichever comes first, it
is foreseen as long as all parts are. -/
theorem fetchAll_parts (c : Client) (w : World) :
    let info := c.fetchAppInfo.run w
    let console := (c.fetchHelp "Console").run info.world
    let full := (c.fetchHelp "Full").run console.world
    (∀ p, (c.fetchAll.run w).result = .ok p ↔
      info.result = .ok p.appInfo ∧ console.result = .ok p.console ∧ full.result = .ok p.full ∧
        p.baseUrl = some c.service.baseUrl) ∧
      ∀ e, (c.fetchAll.run w).result = .error e →
        info.result = .error e ∨ console.result = .error e ∨ full.result = .error e := by
  rw [result_fetchAll]
  exact ⟨fun _ => gather_ok_iff, fun _ h => gather_error h⟩

end

/-- What the client of the sample asks for to get the help in one format. -/
def sampleHelpRequest : Http.Request :=
  ⟨"GET", { sampleRequest.url with query := some "format=Console".toList }, [("format", "Console")],
    none⟩

theorem requestFor_sampleHelp :
    sampleClient.requestFor "GET" "/help" [("format", ["Console"])] = .ok sampleHelpRequest :=
  eq_ok_of_toOption (by decide +kernel)

open Stack.Usual in
/-- A reply that breaks the protocol is not foreseen. -/
theorem fetchHelp_broken :
    let w := answering [.protocolError "bad"]
    ((sampleClient.fetchHelp "Console").run w).result = .error .brokenReply ∧
      ¬Foreseen ((sampleClient.fetchHelp "Console").run w).result := by
  intro w
  have hanswer : World.upcoming sampleHelpRequest w.rules 0 = .protocolError "bad" := by
    decide +kernel
  have hrun : ((sampleClient.fetchHelp "Console").run w).result = .error .brokenReply := by
    obtain ⟨k, hlast, hresult, _⟩ := run_send requestFor_sampleHelp (by decide) w
    obtain rfl := hlast.unique (isLast_zero (.inr (by rw [hanswer]; rfl)))
    have hbind := run_bind_ofExcept (sampleClient.send "GET" "/help" [("format", ["Console"])])
      (fun a => objectOf ("Console" ++ " help") a.body) w
    refine hbind.1.trans ?_
    rw [hresult, hanswer]
    rfl
  rw [hrun]
  exact ⟨rfl, fun h => by cases h _ rfl⟩

end Client
end ServiceAtlas
