import Turnstile.Proofs.Enforcement.Accounting
import Turnstile.Proofs.Json.Records

/-!
# Rewritten responses

What the enforcement layer does to the answers of its service.  The headers of a
decision take the place of what was there under their names, and nothing else of a
response changes.  A refusal says three times how long to wait: in a header, in a
field of its body and in the body's message.
-/

namespace Turnstile

open Http Json Text

/-! ## Numbers in texts -/

/-- Whether a character stands between numbers. -/
def isBetween (char : Char) : Bool :=
  (digit? 10 char).isNone

/-- The numbers that a text mentions, one for each run of decimal digits. -/
def numbersIn (text : List Char) : List Nat :=
  (text.splitOnP isBetween).filterMap (readNumeral? 10)

theorem numbersIn_cons
    {char : Char}
    (between : isBetween char = true)
    (rest : List Char) : numbersIn (char :: rest) = numbersIn rest := by
  rw [numbersIn, List.splitOnP_cons_eq_if_modifyHead, if_pos between]
  rfl

theorem numbersIn_append
    {words : List Char}
    (between : words.all isBetween = true)
    (rest : List Char) : numbersIn (words ++ rest) = numbersIn rest := by
  induction words with
  | nil => rfl
  | cons char words inductionHypothesis =>
      rw [List.all_cons, Bool.and_eq_true] at between
      rw [List.cons_append, numbersIn_cons between.1, inductionHypothesis between.2]

/-- A numeral before other text is mentioned as its number. -/
theorem numbersIn_decimal
    (number : Nat)
    {char : Char}
    (between : isBetween char = true)
    (rest : List Char) :
    numbersIn (decimal number ++ char :: rest) = number :: numbersIn rest := by
  have digits : ∀ digit ∈ decimal number, isBetween digit = false := by
    intro digit member
    rw [isBetween, Option.isNone_eq_false_iff]
    exact isSome_digit?_of_mem_decimal member
  rw [numbersIn, List.splitOnP_append_cons_of_forall_mem digits char between,
    List.filterMap_cons, readNumeral?_decimal]
  rfl

/-- The one number between two texts without digits. -/
theorem numbersIn_between
    {before after : String}
    (betweenBefore : before.toList.all isBetween = true)
    (betweenAfter : after.toList.all isBetween = true)
    (nonempty : after.toList ≠ [])
    (number : Nat) :
    numbersIn (before ++ decimalText number ++ after).toList = [number] := by
  obtain ⟨char, rest, text⟩ := List.exists_cons_of_ne_nil nonempty
  rw [text, List.all_cons, Bool.and_eq_true] at betweenAfter
  have nothing : numbersIn rest = [] := by
    rw [← List.append_nil rest, numbersIn_append betweenAfter.2]
    rfl
  rw [String.toList_append, String.toList_append, decimalText, String.toList_ofList,
    text, List.append_assoc, numbersIn_append betweenBefore,
    numbersIn_decimal number betweenAfter.1, nothing]

/-! ## Written numbers -/

/-- A numeral is readable as the value of a header. -/
theorem readable?_decimal (number : Nat) :
    Resolver.readable? (Utf8.ofAscii (decimal number)) = some (decimal number) := by
  have visible : ∀ char ∈ decimal number,
      Resolver.isReadable (UInt8.ofNat char.toNat) = true :=
    forall_mem_decimal (by decide)
  have same : ∀ char ∈ decimal number,
      Char.ofNat (UInt8.ofNat char.toNat).toNat = char :=
    forall_mem_decimal (by decide)
  rw [Resolver.readable?, Utf8.ofAscii, if_pos (by simpa using visible), List.map_map]
  exact congrArg some ((List.map_congr_left same).trans (List.map_id' _))

/-! ## The headers of a decision -/

namespace Http.Headers

/-- The names that a decision is told under. -/
def rateLimitNames : List String :=
  ["x-ratelimit-limit", "x-ratelimit-remaining", "x-ratelimit-reset"]

/-- The fields that tell a decision. -/
def rateLimitFields (decision : Decision) : List (String × Bytes) :=
  [("x-ratelimit-limit", Utf8.ofAscii (decimal decision.limit.toNat)),
    ("x-ratelimit-remaining", Utf8.ofAscii (decimal decision.remaining.toNat)),
    ("x-ratelimit-reset", Utf8.ofAscii (decimal decision.resetSeconds.toNat))]

/-- Fields that tell a decision once under each of its names. -/
structure Tells (headers : Headers) (decision : Decision) : Prop where
  limit : headers.values "x-ratelimit-limit" =
    [Utf8.ofAscii (decimal decision.limit.toNat)]
  remaining : headers.values "x-ratelimit-remaining" =
    [Utf8.ofAscii (decimal decision.remaining.toNat)]
  reset : headers.values "x-ratelimit-reset" =
    [Utf8.ofAscii (decimal decision.resetSeconds.toNat)]

/-- The fields under other names stay in front, and those of the decision follow. -/
theorem fields_setRateLimit (headers : Headers) (decision : Decision) :
    (headers.setRateLimit decision).fields =
      (headers.fields.filter fun field => field.1 ∉ rateLimitNames) ++
        rateLimitFields decision := by
  have others (field : String × Bytes) :
      (decide (field.1 ≠ "x-ratelimit-reset") &&
        (decide (field.1 ≠ "x-ratelimit-remaining") &&
          decide (field.1 ≠ "x-ratelimit-limit"))) =
        decide (field.1 ∉ rateLimitNames) := by
    rw [← Bool.decide_and, ← Bool.decide_and, decide_eq_decide]
    simp only [rateLimitNames, List.mem_cons, List.not_mem_nil, or_false, not_or]
    tauto
  simp only [setRateLimit, set, List.filter_append, List.filter_filter, others,
    List.append_assoc]
  rfl

theorem setRateLimit_tells (headers : Headers) (decision : Decision) :
    (headers.setRateLimit decision).Tells decision where
  limit := by
    rw [setRateLimit, values_set_of_ne _ (by decide), values_set_of_ne _ (by decide),
      values_set_self]
  remaining := by
    rw [setRateLimit, values_set_of_ne _ (by decide), values_set_self]
  reset := by
    rw [setRateLimit, values_set_self]

/-- A field under another name does not touch what is told. -/
theorem Tells.set_of_not_mem
    {headers : Headers}
    {decision : Decision}
    (told : headers.Tells decision)
    {name : String}
    (other : name ∉ rateLimitNames)
    (value : Bytes) :
    (headers.set name value).Tells decision := by
  have apart {own : String} (owned : own ∈ rateLimitNames) : own ≠ name := by
    rintro rfl
    exact other owned
  constructor
  · rw [values_set_of_ne headers (apart (by decide)), told.limit]
  · rw [values_set_of_ne headers (apart (by decide)), told.remaining]
  · rw [values_set_of_ne headers (apart (by decide)), told.reset]

theorem values_setRateLimit_of_not_mem
    (headers : Headers)
    (decision : Decision)
    {name : String}
    (other : name ∉ rateLimitNames) :
    (headers.setRateLimit decision).values name = headers.values name := by
  simp only [rateLimitNames, List.mem_cons, List.not_mem_nil, or_false, not_or] at other
  rw [setRateLimit, values_set_of_ne _ other.2.2, values_set_of_ne _ other.2.1,
    values_set_of_ne _ other.1]

/-- A later decision takes the place of an earlier one. -/
theorem setRateLimit_setRateLimit (headers : Headers) (first second : Decision) :
    (headers.setRateLimit first).setRateLimit second = headers.setRateLimit second := by
  have owned :
      (rateLimitFields first).filter (fun field => field.1 ∉ rateLimitNames) = [] := rfl
  have fields : ((headers.setRateLimit first).setRateLimit second).fields =
      (headers.setRateLimit second).fields := by
    rw [fields_setRateLimit, fields_setRateLimit, fields_setRateLimit,
      List.filter_append, owned, List.append_nil, List.filter_filter]
    simp only [Bool.and_self]
  exact congrArg Headers.mk fields

end Http.Headers

namespace Http.Response

/-- A response that differs from an inner one only in telling a decision. -/
structure Marks
    (marked : Response)
    (decision : Decision)
    (inner : Response) : Prop where
  status : marked.status = inner.status
  body : marked.body = inner.body
  told : marked.headers.Tells decision
  others (name : String) :
    name ∉ Headers.rateLimitNames →
      marked.headers.values name = inner.headers.values name

/-- The fields of the body of a refusal. -/
def refusalSchema : Schema :=
  [("error", .text), ("message", .text), ("retryAfter", .natural UInt64.size)]

/-- A response that refuses a request for the time that a decision says.  The time
is read from the one `Retry-After` header, from its field of the body and from the
body's message, which mentions no other number. -/
structure Refuses (response : Response) (decision : Decision) : Prop where
  status : response.status = 429
  told : response.headers.Tells decision
  header : ∃ value text,
    response.headers.values "retry-after" = [value] ∧
      Resolver.readable? value = some text ∧
      readInteger UInt64.size text = .ok decision.retryAfterSeconds.toNat
  body : ∃ message,
    readRecord refusalSchema response.body =
        .ok [.text "Too Many Requests".toList, .text message,
          .natural decision.retryAfterSeconds.toNat] ∧
      numbersIn message = [decision.retryAfterSeconds.toNat]

end Http.Response

/-! ## Refusals -/

/-- What the body of a refusal tells the client. -/
def denialMessage (retryAfterSeconds : Nat) : String :=
  "Rate limit exceeded. Please retry after " ++ decimalText retryAfterSeconds
    ++ " seconds."

/-- The fields of the body of a refusal. -/
def denialEntries {retryAfterSeconds : Nat} (fits : retryAfterSeconds < UInt64.size) :
    List Entry :=
  [.text "error" "Too Many Requests",
    .text "message" (denialMessage retryAfterSeconds),
    .natural "retryAfter" fits (Nat.le_refl _)]

/-- The text around two mentions of a number is that of an object whose second field
holds a message and whose third one holds the number. -/
theorem append_eq_writeObject
    {front before number after middle : String}
    {first content second third message : String}
    (opened : front =
      "\x7b" ++ (writeString first ++ ":" ++ content ++ ","
        ++ (writeString second ++ ":" ++ ("\"" ++ before))))
    (closed : middle = after ++ "\"" ++ "," ++ (writeString third ++ ":"))
    (quoted : message = "\"" ++ (before ++ number ++ after) ++ "\"") :
    front ++ number ++ middle ++ number ++ "\x7d" =
      writeObject [(first, content), (second, message), (third, number)] := by
  change _ = "\x7b" ++ (writeString first ++ ":" ++ content ++ ","
    ++ (writeString second ++ ":" ++ message) ++ ","
    ++ (writeString third ++ ":" ++ number)) ++ "\x7d"
  rw [opened, closed, quoted]
  simp only [String.append_assoc]

theorem denialBody_eq_writeObject
    {retryAfterSeconds : Nat}
    (fits : retryAfterSeconds < UInt64.size) :
    denialBody retryAfterSeconds =
      writeObject ((denialEntries fits).map fun entry => (entry.name, entry.written)) := by
  have plain : IsPlain (denialMessage retryAfterSeconds) := by
    refine .append (.append ?_ (isPlain_decimalText _)) ?_
    · decide +kernel
    · decide +kernel
  have opened : "\x7b\"error\":\"Too Many Requests\",\"message\":\"Rate limit exceeded. "
        ++ "Please retry after " =
      "\x7b" ++ (writeString "error" ++ ":" ++ writeString "Too Many Requests" ++ ","
        ++ (writeString "message" ++ ":"
          ++ ("\"" ++ "Rate limit exceeded. Please retry after "))) := by
    decide +kernel
  have closed : " seconds.\",\"retryAfter\":" =
      " seconds." ++ "\"" ++ "," ++ (writeString "retryAfter" ++ ":") := by
    decide +kernel
  exact append_eq_writeObject opened closed plain.writeString_eq

theorem numbersIn_denialMessage (retryAfterSeconds : Nat) :
    numbersIn (denialMessage retryAfterSeconds).toList = [retryAfterSeconds] :=
  numbersIn_between (by decide +kernel) (by decide +kernel) (by decide +kernel) _

theorem tooManyRequests_refuses (decision : Decision) :
    (tooManyRequests decision).Refuses decision := by
  have fits : decision.retryAfterSeconds.toNat < UInt64.size :=
    decision.retryAfterSeconds.toNat_lt
  have distinct : ((denialEntries fits).map Entry.name).Nodup := by
    change ["error", "message", "retryAfter"].Nodup
    decide
  have read := readRecord_writeObject distinct
  rw [← denialBody_eq_writeObject] at read
  exact {
    status := rfl
    told := (Headers.setRateLimit_tells _ decision).set_of_not_mem (by decide) _
    header := ⟨_, decimal _, Headers.values_set_self .., readable?_decimal _,
      (readInteger_decimal (by decide)).2 ⟨fits, rfl⟩⟩
    body := ⟨_, read, numbersIn_denialMessage _⟩ }

/-! ## Answers -/

namespace Enforcement

variable
  {σ ι ε : Type}
  {enforcement : Enforcement}
  {checking : Checking σ}
  {service : Service σ ι ε}
  {state : Guarded σ ι}
  {request : Request}

theorem answer_of_unready
    {error : ε}
    (unready : service.unready? state.inner = some error) :
    (enforcement.drive checking service state request).2.answer = .error error := by
  rw [drive, unready]

theorem answer_of_exempt (exempt : enforcement.isExempt request.path = true) :
    (enforcement.call checking service state request).2.answer =
      (service.call state.limiter state.inner request).2 := by
  rw [call, if_pos exempt]

theorem answer_of_allowed
    {limiter : σ}
    {decision : Decision}
    (checked : enforcement.isExempt request.path = false)
    (decided : checking.consume state.limiter (enforcement.resolver.resolve request) =
      (limiter, decision))
    (allowed : decision.isAllowed = true) :
    (enforcement.call checking service state request).2.answer =
      (service.call limiter state.inner request).2.map fun response =>
        { response with headers := response.headers.setRateLimit decision } := by
  simp only [call, checked, decided, allowed, if_true, Bool.false_eq_true, if_false]

theorem answer_of_denied
    {limiter : σ}
    {decision : Decision}
    (checked : enforcement.isExempt request.path = false)
    (decided : checking.consume state.limiter (enforcement.resolver.resolve request) =
      (limiter, decision))
    (denied : decision.isAllowed = false) :
    (enforcement.call checking service state request).2.answer =
      .ok (tooManyRequests decision) := by
  simp only [call, checked, decided, denied, Bool.false_eq_true, if_false]

theorem marks_setRateLimit (inner : Response) (decision : Decision) :
    { inner with headers := inner.headers.setRateLimit decision }
      |>.Marks decision inner where
  status := rfl
  body := rfl
  told := inner.headers.setRateLimit_tells decision
  others _ other := inner.headers.values_setRateLimit_of_not_mem decision other

/-- An exempt answer is the service's own.  So is an allowed one, save that a response
tells the decision under its three names, each with one value, and that alone.  An error
is passed on as it is, that of an unready service too.  A denied request is refused for
as long as the decision says.  A second decision leaves nothing of a first one. -/
theorem answers_change_own_headers_only
    (enforcement : Enforcement)
    (checking : Checking σ)
    (service : Service σ ι ε)
    (state : Guarded σ ι)
    (request : Request)
    (limiter : σ)
    (decision : Decision) :
    let answer := (enforcement.drive checking service state request).2.answer
    let decides := checking.consume state.limiter
      (enforcement.resolver.resolve request) = (limiter, decision)
    (∀ error, service.unready? state.inner = some error → answer = .error error) ∧
    (service.unready? state.inner = none →
      (enforcement.isExempt request.path = true →
        answer = (service.call state.limiter state.inner request).2) ∧
      (enforcement.isExempt request.path = false → decides →
        (decision.isAllowed = true →
          (∀ error, (service.call limiter state.inner request).2 = .error error →
            answer = .error error) ∧
          ∀ inner, (service.call limiter state.inner request).2 = .ok inner →
            ∃ marked, answer = .ok marked ∧ marked.Marks decision inner) ∧
        (decision.isAllowed = false →
          ∃ refusal, answer = .ok refusal ∧ refusal.Refuses decision))) ∧
    ∀ headers earlier,
      (Headers.setRateLimit headers earlier).setRateLimit decision =
        headers.setRateLimit decision := by
  intro answer decides
  refine ⟨?unready, ?ready, ?again⟩
  case unready =>
    intro error unready
    exact answer_of_unready unready
  case ready =>
    intro ready
    have called : answer = (enforcement.call checking service state request).2.answer :=
      congrArg (fun handled => handled.2.answer) (drive_of_ready ready)
    rw [called]
    refine ⟨answer_of_exempt, fun checked decided => ⟨fun allowed => ?_, ?_⟩⟩
    · rw [answer_of_allowed checked decided allowed]
      constructor
      · intro error failed
        rw [failed]
        rfl
      · intro inner answered
        rw [answered]
        exact ⟨_, rfl, marks_setRateLimit inner decision⟩
    · intro denied
      rw [answer_of_denied checked decided denied]
      exact ⟨_, rfl, tooManyRequests_refuses decision⟩
  case again =>
    intro headers earlier
    exact headers.setRateLimit_setRateLimit earlier decision

/-- A limiter with so many tokens left, which then refuses for the longest time. -/
def rationing : Checking Nat where
  consume left _ :=
    match left with
    | 0 => (0, .denied 5 7 (UInt64.ofNat (UInt64.size - 1)))
    | left + 1 => (left, .allowed 5 (UInt32.ofNat left) 7)

/-- A service that tells a limit of its own, twice, that fails for one path and that may
be asleep. -/
def boasting : Service Nat Bool String where
  unready? isAwake := if isAwake then none else some "asleep"
  call _ isAwake request :=
    (isAwake, if request.path = "/fail" then .error "failed"
      else .ok
        { status := 404
          headers := .ofList
            [("X-RateLimit-Limit", [49]), ("vary", [65]), ("x-ratelimit-limit", [50]),
              ("vary", [66])]
          body := "unknown" })

/-- The limits that a service tells give way to the decision's, its other fields and its
errors stay, and the longest refusal says its time in full. -/
theorem boasted_limits_give_way :
    let enforcement : Enforcement :=
      { exemptPaths := ["/health"], resolver := .trusting }
    let get (target : String) : Request :=
      { method := "GET", target, headers := .empty, peer := none }
    let state (left : Nat) (isAwake : Bool) : Guarded Nat Bool :=
      { limiter := left, inner := isAwake, metrics := .none }
    let answer (left : Nat) (isAwake : Bool) (target : String) :=
      (enforcement.drive rationing boasting (state left isAwake) (get target)).2.answer
    answer 4 false "/ping" = .error "asleep" ∧
      answer 0 true "/health" = (boasting.call 0 true (get "/health")).2 ∧
      answer 4 true "/fail" = .error "failed" ∧
      (∃ marked, answer 4 true "/ping" = .ok marked ∧ marked.status = 404 ∧
        marked.headers.values "x-ratelimit-limit" = [[53]] ∧
        marked.headers.values "x-ratelimit-remaining" = [[51]] ∧
        marked.headers.values "vary" = [[65], [66]]) ∧
      ∃ refusal, answer 0 true "/ping" = .ok refusal ∧
        refusal.Refuses (.denied 5 7 (UInt64.ofNat (UInt64.size - 1))) := by
  intro enforcement get state answer
  have answers (left : Nat) (isAwake : Bool) (target : String) :=
    answers_change_own_headers_only enforcement rationing boasting
      (state left isAwake) (get target)
  obtain ⟨asleep, -, -⟩ := answers 4 false "/ping" 3 (.allowed 5 3 7)
  obtain ⟨-, healthy, -⟩ := answers 0 true "/health" 0 (.allowed 0 0 0)
  obtain ⟨-, failing, -⟩ := answers 4 true "/fail" 3 (.allowed 5 3 7)
  obtain ⟨-, passing, -⟩ := answers 4 true "/ping" 3 (.allowed 5 3 7)
  obtain ⟨-, refusing, -⟩ :=
    answers 0 true "/ping" 0 (.denied 5 7 (UInt64.ofNat (UInt64.size - 1)))
  obtain ⟨exempt, -⟩ := healthy rfl
  obtain ⟨failed, -⟩ := ((failing rfl).2 (by decide +kernel) (by decide +kernel)).1 rfl
  obtain ⟨-, passed⟩ := ((passing rfl).2 (by decide +kernel) (by decide +kernel)).1 rfl
  obtain ⟨marked, same, marks⟩ := passed _ (if_neg (by decide +kernel))
  refine ⟨asleep _ rfl, exempt (by decide +kernel), failed _ (by decide +kernel),
    ⟨marked, same, marks.status, marks.told.limit.trans (by decide +kernel),
      marks.told.remaining.trans (by decide +kernel),
      (marks.others "vary" (by decide)).trans (by decide +kernel)⟩,
    ((refusing rfl).2 (by decide +kernel) (by decide +kernel)).2 rfl⟩

end Enforcement

end Turnstile
