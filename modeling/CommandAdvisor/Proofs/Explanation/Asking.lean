import CommandAdvisor.Explanation.Asking
import CommandAdvisor.Proofs.Frames
import CommandAdvisor.Proofs.History.Stored
import CommandAdvisor.Proofs.Json.LongIntegers
import CommandAdvisor.Proofs.Json.Nesting
import CommandAdvisor.Proofs.Text.Words

/-!
# What becomes of an answer

Whatever a service answers, a command is explained: by the answer, if that is the record that
was asked for, and otherwise by an explanation that has the answer as its text. Two kinds of
answers make asking fail all the same: those in which the reader is stopped by an integer that is
too long, and those whose containers are within each other so deep that there is no room to read
them. Asking changes nothing but the journal and the list of requests.

## Main definitions
* `IsSoundAnswer`: an answer of characters, also in the strings that it writes.

## Main statements
* `exists_mem_messages`: a request states the level of the command.
* `readReply_eq_ok_iff`, `readReply_eq_longInteger_iff` and `readReply_eq_exhausted_iff`: what is
  read in an answer.
* `run_ask`: one request is sent, and the answer to it decides everything.
* `isSound_of_run_ask`: sound answers give sound explanations.
* `ask_answered`: what becomes of each answer.
-/
namespace CommandAdvisor.Explanation

open CommandAdvisor.Action
open Json (StopsAtInteger isWholePart_ones ones stopsAtInteger_ones)

/-! ## Questions -/

/-- The level stands on the first line of what is said about the risk of a command. -/
theorem exists_userPrompt_eq (command : Text) :
    ∃ rest, userPrompt command (Risk.summary command) =
      question command ++ ("\n\nLocal safety check:\nrisk level: " ++
        (Risk.assess .builtIn command).level.name ++ "\n" ++ rest) := by
  have hsummary : ∃ rest, Risk.summary command ++ "\n\n" ++ advice =
      "risk level: " ++ (Risk.assess .builtIn command).level.name ++ "\n" ++ rest := by
    rw [Risk.summary]
    cases (Risk.assess .builtIn command).warnings with
    | nil =>
      have hgap : Text.ofString "\n\n" = "\n" ++ Text.ofString "\n" := rfl
      exact ⟨"\n" ++ advice, by simp [Text.joinedBy, hgap]⟩
    | cons warning warnings =>
      refine ⟨Text.joinedBy "\n" ((warning :: warnings).map ("- " ++ ·)) ++ "\n\n" ++ advice, ?_⟩
      simp [Text.joinedBy, List.intercalate_cons_cons]
  obtain ⟨rest, hrest⟩ := hsummary
  have hheading : Text.ofString "\n\nLocal safety check:\nrisk level: " =
      "\n\n" ++ ("Local safety check:\n" ++ Text.ofString "risk level: ") := rfl
  have hsays : (Risk.summary command).isEmpty = false := by
    rw [Risk.summary]
    cases (Risk.assess .builtIn command).warnings <;> rfl
  refine ⟨rest, ?_⟩
  calc userPrompt command (Risk.summary command)
      = question command ++ ("\n\n" ++ ("Local safety check:\n" ++
          (Risk.summary command ++ "\n\n" ++ advice))) := by
        simp [userPrompt, hsays, Text.joinedBy, List.intercalate_cons_cons]
    _ = question command ++ ("\n\nLocal safety check:\nrisk level: " ++
          (Risk.assess .builtIn command).level.name ++ "\n" ++ rest) := by
        simp only [hrest, hheading, List.append_assoc]

/-- A request asks about the command and states its level. -/
theorem exists_mem_messages (settings : Settings) (command : Text) :
    ∃ rest, ⟨"user", question command ++ ("\n\nLocal safety check:\nrisk level: " ++
      (Risk.assess .builtIn command).level.name ++ "\n" ++ rest)⟩ ∈
        (requestFor settings command (Risk.summary command)).messages := by
  obtain ⟨rest, hprompt⟩ := exists_userPrompt_eq command
  refine ⟨rest, ?_⟩
  rw [← hprompt]
  simp [requestFor, messages]

/-! ## Replies -/

variable {room : Json.Room}

/-- What is read in a reply, by what the reader makes of it. -/
theorem readReply_outcomes (room : Json.Room) (reply : Text) :
    (∀ e, readReply room reply = .ok e ↔ Json.exhaustion? room reply = none ∧
      ∃ v, Json.read .free reply = .ok v ∧ decode v = .valid e) ∧
    (∀ n, readReply room reply = .error (.longInteger n) ↔ Json.exhaustion? room reply = none ∧
      Json.read .free reply = .error (.oversized n)) ∧
    ∀ during, readReply room reply = .error (.exhausted during) ↔
      Json.exhaustion? room reply = some during := by
  rw [readReply]
  cases Json.exhaustion? room reply with
  | some during => simp
  | none =>
    dsimp only
    cases hread : Json.read .free reply with
    | error fault => cases fault <;> simp
    | ok v =>
      dsimp only
      cases hdecode : decode v <;> simp [hdecode]

/-- The explanations in replies: a reply is JSON, and its value is the record of one. -/
theorem readReply_eq_ok_iff {reply : Text} {e : Explanation} :
    readReply room reply = .ok e ↔ Json.exhaustion? room reply = none ∧
      ∃ v, Json.read .free reply = .ok v ∧ decode v = .valid e :=
  (readReply_outcomes room reply).1 e

theorem readReply_eq_longInteger_iff {reply : Text} {n : Nat} :
    readReply room reply = .error (.longInteger n) ↔
      Json.exhaustion? room reply = none ∧ StopsAtInteger reply n := by
  rw [← Json.read_eq_oversized_iff]
  exact (readReply_outcomes room reply).2.1 n

theorem readReply_eq_exhausted_iff {reply : Text} {during : Json.Strain} :
    readReply room reply = .error (.exhausted during) ↔
      Json.exhaustion? room reply = some during :=
  (readReply_outcomes room reply).2.2 during

/-- The explanation that stands for a reply, or the failure that it ends in. -/
def explanationOf (room : Json.Room) (command reply : Text) : Except Failure Explanation :=
  match readReply room reply with
  | .ok e => .ok e
  | .error (.longInteger digits) => .error (.longInteger digits)
  | .error (.exhausted during) => .error (.exhausted during)
  | .error _ => .ok (fallback command reply)

/-- A reply is explained by the explanation in it if there is one, and otherwise stands as the
text of an explanation. -/
theorem exists_explanationOf_eq_ok (command : Text) {reply : Text}
    (hroom : Json.exhaustion? room reply = none) (h : ∀ n, ¬StopsAtInteger reply n) :
    ∃ e, explanationOf room command reply = .ok e ∧
      (∀ v e', Json.read .free reply = .ok v → decode v = .valid e' → e = e') ∧
      ((∀ v e', Json.read .free reply = .ok v → decode v ≠ .valid e') →
        e = fallback command reply) := by
  cases hreply : readReply room reply with
  | ok e =>
    obtain ⟨-, v, hread, hdecode⟩ := readReply_eq_ok_iff.1 hreply
    refine ⟨e, by rw [explanationOf, hreply], fun v' e' hread' hdecode' => ?_, fun hnone => ?_⟩
    · have hsame := readReply_eq_ok_iff.2 ⟨hroom, v', hread', hdecode'⟩
      exact Except.ok.inj (hreply.symm.trans hsame)
    · exact absurd hdecode (hnone v e hread)
  | error cause =>
    have hfallback : explanationOf room command reply = .ok (fallback command reply) := by
      rw [explanationOf, hreply]
      cases cause with
      | longInteger n => exact absurd (readReply_eq_longInteger_iff.1 hreply).2 (h n)
      | exhausted during => cases hroom.symm.trans (readReply_eq_exhausted_iff.1 hreply)
      | _ => rfl
    refine ⟨fallback command reply, hfallback, fun v e hread hdecode => ?_, fun _ => rfl⟩
    have hvalid := readReply_eq_ok_iff.2 ⟨hroom, v, hread, hdecode⟩
    rw [hreply] at hvalid
    cases hvalid

theorem explanationOf_of_stopsAtInteger (command : Text) {reply : Text} {n : Nat}
    (hroom : Json.exhaustion? room reply = none) (h : StopsAtInteger reply n) :
    explanationOf room command reply = .error (.longInteger n) := by
  rw [explanationOf, readReply_eq_longInteger_iff.2 ⟨hroom, h⟩]

theorem explanationOf_of_exhaustion? (command : Text) {reply : Text} {during : Json.Strain}
    (h : Json.exhaustion? room reply = some during) :
    explanationOf room command reply = .error (.exhausted during) := by
  rw [explanationOf, readReply_eq_exhausted_iff.2 h]

/-- An answer holds characters only, also in the strings that it writes with escapes. -/
def IsSoundAnswer (reply : Text) : Prop :=
  reply.isSound = true ∧ ∀ v, Json.read .free reply = .ok v → v.IsSound

/-- What is said about a sound command in a sound answer is sound. -/
theorem isSound_of_explanationOf {command reply : Text} {e : Explanation}
    (h : explanationOf room command reply = .ok e) (hcommand : command.isSound = true)
    (hreply : IsSoundAnswer reply) : ∀ t ∈ e.texts, t.isSound = true := by
  have hfallback : ∀ t ∈ (fallback command reply).texts, t.isSound = true := by
    simp [texts, Part.texts, fallback, fallbackPartText, fallbackSafetyNotes,
      Command.TokenKind.name, hcommand, hreply.1]
  rw [explanationOf] at h
  split at h
  · next e' hread =>
    cases h
    obtain ⟨-, v, hv, hdecode⟩ := readReply_eq_ok_iff.1 hread
    exact yields_decode v e (hreply.2 v hv) hdecode
  · cases h
  · cases h
  · cases h
    exact hfallback

/-! ## Asking -/

section Asking

variable (service : Service) (settings : Settings) {line : Text} (w : Workspace)

theorem run_ask_of_isBlank (h : Text.IsBlank line) :
    (ask service settings line).run w = .error .noCommand w := by
  rw [ask, Text.trim_eq_nil_iff.2 h]
  rfl

theorem run_send (request : Request) :
    (send service request).run w =
      match service request with
      | .ok content =>
        .ok (Text.trim (content.getD [])) { w with requests := w.requests ++ [request] }
      | .error fault => .error (.service fault) { w with requests := w.requests ++ [request] } := by
  have hsent : (modify fun w => { w with requests := w.requests ++ [request] } : Action Unit).run w =
      .ok () { w with requests := w.requests ++ [request] } := rfl
  rw [send, run_bind_of_ok hsent]
  cases service request <;> rfl

/-- One request is sent, and the answer to it decides everything. -/
theorem run_ask (hline : ¬Text.IsBlank line) :
    let request := requestFor settings (Text.trim line) (Risk.summary (Text.trim line))
    ∃ w', SameBesidesNotes { w with requests := w.requests ++ [request] } w' ∧
      (ask service settings line).run w =
        match service request with
        | .error fault => .error (.service fault) w'
        | .ok content =>
          match explanationOf w.host.room (Text.trim line) (Text.trim (content.getD [])) with
          | .ok e => .ok e w'
          | .error failure => .error failure w' := by
  intro request
  have hcommand : ¬(Text.trim line).isEmpty = true := by
    rwa [List.isEmpty_iff, Text.trim_eq_nil_iff]
  have hnote (e : Event) (v : Workspace) :
      ∃ v', (note e).run v = .ok () v' ∧ SameBesidesNotes v v' := ⟨_, rfl, _, _, rfl⟩
  obtain ⟨_, w₁, hverdict⟩ := succeeds_noteVerdict (Risk.assess .builtIn (Text.trim line)) w
  have h₁ := (respects_noteVerdict _).of_run_eq_ok hverdict
  obtain ⟨w₂, hmodel, h₂⟩ := hnote (.modelChosen request.model) w₁
  obtain ⟨w₃, hsending, h₃⟩ := hnote (.requestSent
    ((Json.Value.array (request.messages.map Message.encode)).write .portable .indented)) w₂
  have hsent : SameBesidesNotes { w with requests := w.requests ++ [request] }
      { w₃ with requests := w₃.requests ++ [request] } := by
    obtain ⟨_, _, rfl⟩ : SameBesidesNotes w w₃ := IsTrans.trans _ _ _ (IsTrans.trans _ _ _ h₁ h₂) h₃
    exact ⟨_, _, rfl⟩
  have hsend := run_send service w₃ request
  rw [ask]
  dsimp only
  rw [if_neg hcommand, run_bind_of_ok hverdict, run_bind_of_ok hmodel, run_bind_of_ok hsending]
  cases hservice : service request with
  | error fault =>
    rw [hservice] at hsend
    exact ⟨_, hsent, run_bind_of_error hsend⟩
  | ok content =>
    rw [hservice] at hsend
    obtain ⟨w₄, hreceived, h₄⟩ := hnote (.replyReceived (Text.trim (content.getD [])))
      { w₃ with requests := w₃.requests ++ [request] }
    have hafter := IsTrans.trans _ _ _ hsent h₄
    have hhost : w₄.host = w.host := by
      obtain ⟨_, _, rfl⟩ := hafter
      rfl
    rw [run_bind_of_ok hsend, run_bind_of_ok hreceived, run_bind_of_ok (EStateM.run_get w₄), hhost]
    dsimp only
    rw [explanationOf]
    cases readReply w.host.room (Text.trim (content.getD [])) with
    | ok e => exact ⟨w₄, hafter, rfl⟩
    | error cause =>
      obtain ⟨w₅, hunusable, h₅⟩ := hnote (.replyUnusable cause) w₄
      cases cause with
      | longInteger digits => exact ⟨w₄, hafter, rfl⟩
      | exhausted during => exact ⟨w₄, hafter, rfl⟩
      | _ => exact ⟨w₅, IsTrans.trans _ _ _ hafter h₅, run_bind_of_ok hunusable⟩

/-- Asking leaves the files alone. -/
theorem respects_ask (line : Text) :
    Respects SameFiles (ask service settings line) := by
  intro w
  by_cases hline : Text.IsBlank line
  · rw [run_ask_of_isBlank service settings w hline]
    exact ⟨rfl, rfl⟩
  · obtain ⟨w', hsame, hrun⟩ := run_ask service settings w hline
    have hfinal : final ((ask service settings line).run w) = w' := by
      rw [hrun]
      split
      · rfl
      · split <;> rfl
    rw [hfinal]
    obtain ⟨_, _, rfl⟩ := hsame
    exact ⟨rfl, rfl⟩

variable {service settings w} in
/-- Behind a result stand the one request that was sent and the answer to it. -/
theorem exists_of_run_ask {e : Explanation} {w' : Workspace}
    (h : (ask service settings line).run w = .ok e w') :
    let request := requestFor settings (Text.trim line) (Risk.summary (Text.trim line))
    SameBesidesNotes { w with requests := w.requests ++ [request] } w' ∧
      ∃ content, service request = .ok content ∧
        explanationOf w.host.room (Text.trim line) (Text.trim (content.getD [])) = .ok e := by
  by_cases hline : Text.IsBlank line
  · rw [run_ask_of_isBlank service settings w hline] at h
    cases h
  · obtain ⟨w₁, hsame, hrun⟩ := run_ask service settings w hline
    rw [h] at hrun
    split at hrun
    · cases hrun
    · next content hcontent =>
      split at hrun
      · next e' he =>
        cases hrun
        exact ⟨hsame, content, hcontent, he⟩
      · cases hrun

variable {service settings w} in
/-- The explanation of a sound command by a service with sound answers is sound. -/
theorem isSound_of_run_ask {e : Explanation} {w' : Workspace}
    (h : (ask service settings line).run w = .ok e w') (hline : line.isSound = true)
    (hservice : ∀ request content, service request = .ok content →
      IsSoundAnswer (Text.trim (content.getD []))) : ∀ t ∈ e.texts, t.isSound = true := by
  obtain ⟨-, content, hcontent, he⟩ := exists_of_run_ask h
  exact isSound_of_explanationOf he ((Text.isSound_trim line).2 hline) (hservice _ _ hcontent)

/-- **What becomes of each answer.** A result is the explanation in the answer if there is one,
and otherwise has the answer as its text; there is none where the reader of the answer is
stopped by an integer that is too long or runs out of room, and there is room for an answer whose
containers stay three short of filling it. -/
theorem ask_answered (hline : ¬Text.IsBlank line) {content : Option Text}
    (hcontent : service (requestFor settings (Text.trim line) (Risk.summary (Text.trim line))) =
      .ok content) :
    let reply := Text.trim (content.getD [])
    ∃ w', SameBesidesNotes { w with requests := w.requests ++
        [requestFor settings (Text.trim line) (Risk.summary (Text.trim line))] } w' ∧
      (Json.nesting reply + 3 ≤ w.host.room.most → Json.exhaustion? w.host.room reply = none) ∧
      (Json.exhaustion? w.host.room reply = none →
        ((∀ n, ¬StopsAtInteger reply n) → ∃ e, (ask service settings line).run w = .ok e w' ∧
          (∀ v e', Json.read .free reply = .ok v → decode v = .valid e' → e = e') ∧
          ((∀ v e', Json.read .free reply = .ok v → decode v ≠ .valid e') →
            e = ⟨[⟨Text.trim line, "command", fallbackPartText, none⟩], reply, fallbackSafetyNotes,
              []⟩)) ∧
        ∀ n, StopsAtInteger reply n →
          (ask service settings line).run w = .error (.longInteger n) w') ∧
      ∀ during, Json.exhaustion? w.host.room reply = some during →
        (ask service settings line).run w = .error (.exhausted during) w' := by
  intro reply
  obtain ⟨w', hsame, hrun⟩ := run_ask service settings w hline
  rw [hcontent] at hrun
  dsimp only at hrun
  refine ⟨w', hsame, Json.exhaustion?_eq_none_of_nesting,
    fun hroom => ⟨fun hstops => ?_, fun n hstops => ?_⟩, fun during hgiven => ?_⟩
  · obtain ⟨e, hexplanation, hvalid, hotherwise⟩ :=
      exists_explanationOf_eq_ok (Text.trim line) hroom hstops
    rw [hexplanation] at hrun
    exact ⟨e, hrun, hvalid, hotherwise⟩
  · rw [explanationOf_of_stopsAtInteger (Text.trim line) hroom hstops] at hrun
    exact hrun
  · rw [explanationOf_of_exhaustion? (Text.trim line) hgiven] at hrun
    exact hrun

/-- No answer is explained by the words for that, an empty record by itself, and too many ones
make asking fail. -/
theorem ask_answered_ones :
    (∃ w', (ask (fun _ => .ok none) .standard "ls").run History.Store.bareWorkspace =
      .ok (fallback "ls" []) w') ∧
    (∃ w', (ask (fun _ => .ok (some " \x7b\x7d\n")) .standard "ls").run
      History.Store.bareWorkspace = .ok .empty w') ∧
    ∃ w', (ask (fun _ => .ok (some ones)) .standard "ls").run History.Store.bareWorkspace =
      .error (.longInteger 4301) w' := by
  have hline : ¬Text.IsBlank "ls" := by decide
  have hgoes {reply : Text} {result : Except Json.ReadFault Json.Value}
      (hread : Json.read .free reply = result) (hresult : ∀ n, result ≠ .error (.oversized n)) :
      ∀ n, ¬StopsAtInteger reply n := fun n hstops =>
    hresult n (hread.symm.trans (Json.read_eq_oversized_iff.2 hstops))
  refine ⟨?_, ?_, ?_⟩
  · obtain ⟨w', -, hroom, hresult, -⟩ := ask_answered (fun _ => .ok none) .standard
      History.Store.bareWorkspace hline rfl
    have hread : Json.read .free [] = .error .malformed := rfl
    obtain ⟨e, hrun, -, hfallback⟩ := (hresult (hroom (by decide))).1 (hgoes hread (by simp))
    have he : e = fallback "ls" [] := hfallback fun v e' (hv : Json.read .free [] = .ok v) => by
      rw [hread] at hv
      cases hv
    exact ⟨w', he ▸ hrun⟩
  · obtain ⟨w', -, hroom, hresult, -⟩ := ask_answered
      (fun _ => .ok (some " \x7b\x7d\n")) .standard History.Store.bareWorkspace hline rfl
    have hread : Json.read .free "\x7b\x7d" = .ok (.object []) := rfl
    obtain ⟨e, hrun, hvalid, -⟩ := (hresult (hroom (by decide))).1 (hgoes hread (by simp))
    have he : e = .empty := hvalid _ _ hread rfl
    exact ⟨w', he ▸ hrun⟩
  · obtain ⟨w', -, hroom, hfails, -⟩ := ask_answered (fun _ => .ok (some ones)) .standard
      History.Store.bareWorkspace hline rfl
    have hnoBlank : ∀ l ∈ ones, Text.isBlank l = false := by
      intro l hl
      rw [List.eq_of_mem_replicate hl]
      rfl
    have htrim : Text.trim ones = ones :=
      Text.trim_eq_self (fun l hl => hnoBlank l (List.mem_of_head? hl))
        (fun l hl => hnoBlank l (List.mem_of_getLast? hl))
    rw [Option.getD_some, htrim] at hroom hfails
    have hnesting : Json.nesting ones = 0 := Json.nesting_of_isWholePart isWholePart_ones
    exact ⟨w', (hfails (hroom (by rw [hnesting]; decide))).2 4301 stopsAtInteger_ones⟩

end Asking

end CommandAdvisor.Explanation
