import Switchboard.Proofs.Http.Parameters
import Switchboard.Proofs.Server.Prefixes
import Switchboard.Server.Connection

/-!
# The request that opens a socket

A socket is opened on the decoded path behind the prefix, and that is the path that is checked and
bound (`Server.exists_of_openSocket_eq_ok`). The request that goes with the channel is made of the
decoded path and of the query as it came, put together with a question mark and cut at the first one.
So it has the path of the socket and the pairs of the query exactly if decoding gives no question mark.
If it gives one, the path of the request ends there, and what stands behind is read as a query
(`Server.handshake_of_accepted`).
-/

namespace Switchboard

/-! ## A path and a query put together -/

/-- A text with a query behind it, if there is one. -/
def withQuery (text : String) : Option String → String
  | some query => text ++ "?" ++ query
  | none => text

theorem withQuery_append (front rest : String) (query : Option String) :
    withQuery (front ++ rest) query = front ++ withQuery rest query := by
  cases query with
  | none => rfl
  | some query => simp only [withQuery, String.append_assoc]

/-- The pairs of a query, none if there is no query. -/
def queryPairs : Option String → List (String × String)
  | some query => Form.parse query.toUTF8
  | none => []

namespace Server

variable {σ : Type}

theorem handshake_eq (path : String) (r : WireRequest) :
    handshake path r =
      .ofParts .ws (withQuery path r.query?) r.headers ByteArray.empty none := by
  unfold handshake
  cases r.query? <;> rfl

/-- A path without a question mark stays apart from the query. -/
theorem handshake_of_notMem {path : String} (plain : '?' ∉ path.toList) (some : path ≠ "")
    (r : WireRequest) :
    (handshake path r).path = path ∧ (handshake path r).Gives (queryPairs r.query?) := by
  rw [handshake_eq, Request.path_ofParts]
  cases r.query? with
  | none =>
    exact ⟨Request.path_ofUri_of_notMem plain some _,
      (Request.gives_ofUri_of_notMem plain _).ofParts _ _⟩
  | some query =>
    exact ⟨Request.path_ofUri_query plain some _ query,
      (Request.gives_ofUri_query plain _ query).ofParts _ _⟩

/-- A path with a question mark is cut there, and its end goes to the query. -/
theorem handshake_of_append {front : String} (plain : '?' ∉ front.toList) (some : front ≠ "")
    (rest : String) (r : WireRequest) :
    (handshake (front ++ "?" ++ rest) r).path = front ∧
      (handshake (front ++ "?" ++ rest) r).Gives
        (Form.parse (withQuery rest r.query?).toUTF8) := by
  rw [handshake_eq, withQuery_append, Request.path_ofParts]
  exact ⟨Request.path_ofUri_query plain some _ _, (Request.gives_ofUri_query plain _ _).ofParts _ _⟩

/-! ## Accepted upgrades -/

theorem target_numbered (fresh : String) (r : WireRequest) :
    (numbered fresh r).target = r.target := by
  unfold numbered
  split <;> rfl

theorem pathAndQuery_numbered (fresh : String) (r : WireRequest) :
    (numbered fresh r).pathAndQuery = r.pathAndQuery := by
  unfold WireRequest.pathAndQuery
  rw [target_numbered]

theorem path_numbered (fresh : String) (r : WireRequest) : (numbered fresh r).path = r.path := by
  unfold WireRequest.path
  rw [pathAndQuery_numbered]

theorem query?_numbered (fresh : String) (r : WireRequest) :
    (numbered fresh r).query? = r.query? := by
  unfold WireRequest.query?
  rw [pathAndQuery_numbered]

/-- A decoded path is what was written, with one slash in front. -/
theorem decodedPath?_of_escaped {written text : String}
    (escaped : Form.Escaped written.toUTF8.data.toList text.toUTF8.data.toList) :
    decodedPath? written = some ("/" ++ Text.trimStartOf '/' text) := by
  unfold decodedPath? Utf8.decode?
  rw [escaped.percentDecode_eq, List.data_toByteArray, Utf8.toList_toUTF8,
    Utf8.decodeList?_encodeList, Option.map_some, Option.map_some, String.ofList_toList]

variable {server : Server σ} {s : Surroundings} {fresh : String} {r : WireRequest}
  {service after : Service σ} {c : Connection}

/-- What an accepted upgrade did: the path was decoded, checked and bound, in that order. -/
theorem exists_of_openSocket_eq_ok
    (accepted : (server.openSocket s fresh r).run service = (.ok c, after)) :
    ∃ written checked, r.path = server.socketRoot ++ "/" ++ written ∧
      decodedPath? written = some c.path ∧
      (server.engine.acceptsSocket s c.path).run service = (true, checked) ∧
      c.handshake = handshake c.path (numbered fresh r) ∧
      checked.hub.bind c.path c.handshake = (c.channel, after.hub) := by
  unfold openSocket at accepted
  dsimp only at accepted
  split at accepted
  · next written found _ =>
    split at accepted
    · cases accepted
    · next path decoded =>
      rw [path_numbered] at found
      cases check : (server.engine.acceptsSocket s path).run service with
      | mk answer checked =>
        rw [StateT.run_bind, check] at accepted
        cases answer with
        | false => cases accepted
        | true =>
          let bound := checked.hub.bind path (handshake path (numbered fresh r))
          change (Except.ok
              { path, channel := bound.1, handshake := handshake path (numbered fresh r) },
            { checked with hub := bound.2 }) = (Except.ok c, after) at accepted
          obtain ⟨same, rfl⟩ := Prod.mk.inj accepted
          obtain rfl := Except.ok.inj same
          dsimp only
          exact ⟨written, checked, (socketPath?_eq_some.1 found).1, decoded, check, rfl,
            Prod.mk.eta.symm⟩
  · cases accepted

section Escaped

variable {written text : String} (path : r.path = server.socketRoot ++ "/" ++ written)
  (escaped : Form.Escaped written.toUTF8.data.toList text.toUTF8.data.toList)
  (accepted : (server.openSocket s fresh r).run service = (.ok c, after))

include path escaped accepted

/-- The path that was checked and bound is the text that was escaped. -/
theorem bound_of_accepted :
    c.path = "/" ++ Text.trimStartOf '/' text ∧
      c.handshake = handshake c.path (numbered fresh r) ∧
      ∃ checked, (server.engine.acceptsSocket s c.path).run service = (true, checked) ∧
        checked.hub.bind c.path c.handshake = (c.channel, after.hub) := by
  obtain ⟨captured, checked, split, decoded, check, made, bound⟩ :=
    exists_of_openSocket_eq_ok accepted
  obtain rfl : written = captured := by
    rw [path, String.append_right_inj] at split
    exact split
  have same := (decodedPath?_of_escaped escaped).symm.trans decoded
  exact ⟨(Option.some.inj same).symm, made, checked, check, bound⟩

/-- **The request of an accepted upgrade.** The channel is bound to the decoded path, which was
checked. If there is no question mark in it, the request has that path and the pairs of the query. If
there is one, the path of the request ends at the first, and the pairs are those of all that stands
behind it, the query included. -/
theorem handshake_of_accepted :
    c.path = "/" ++ Text.trimStartOf '/' text ∧
      (∃ checked, (server.engine.acceptsSocket s c.path).run service = (true, checked) ∧
        checked.hub.bind c.path c.handshake = (c.channel, after.hub)) ∧
      ('?' ∉ text.toList →
        c.handshake.path = c.path ∧ c.handshake.Gives (queryPairs r.query?)) ∧
      ∀ front rest, text = front ++ "?" ++ rest → '?' ∉ front.toList →
        c.handshake.path = "/" ++ Text.trimStartOf '/' front ∧ c.handshake.path ≠ c.path ∧
          c.handshake.Gives (Form.parse (withQuery rest r.query?).toUTF8) := by
  obtain ⟨bind, made, bound⟩ := bound_of_accepted path escaped accepted
  have rooted (t : String) : "/" ++ t ≠ "" := by simp
  have plain {t : String} (h : '?' ∉ t.toList) :
      '?' ∉ ("/" ++ Text.trimStartOf '/' t).toList := by
    rw [String.toList_append, List.mem_append, not_or]
    exact ⟨by decide, Text.notMem_trimStartOf h⟩
  refine ⟨bind, bound, fun clear => ?_, ?_⟩
  · rw [made, bind, ← query?_numbered fresh r]
    exact handshake_of_notMem (plain clear) (rooted _) _
  · rintro front rest rfl clear
    -- slashes are trimmed up to the mark at most, so what stands behind it stays whole
    have parts : c.path = "/" ++ Text.trimStartOf '/' front ++ "?" ++ rest := by
      have trimmed : Text.trimStartOf '/' (front ++ "?" ++ rest) =
          Text.trimStartOf '/' front ++ "?" ++ rest :=
        Text.trimStartOf_append (c := '/') (d := '?') (by decide) front rest
      rw [bind, trimmed]
      simp only [String.append_assoc]
    have derived := handshake_of_append (plain clear) (rooted _) rest (numbered fresh r)
    rw [query?_numbered] at derived
    rw [made, parts]
    refine ⟨derived.1, ?_, derived.2⟩
    rw [derived.1]
    intro same
    have length := congrArg String.length same
    simp only [String.length_append] at length
    have mark : "?".length = 1 := rfl
    omega

end Escaped

/-- A request on the wire that asks for a socket. -/
def upgradeOf (target : String) : WireRequest where
  method := "GET"
  target := target
  headers := ⟨[("connection", "Upgrade".toUTF8), ("upgrade", "websocket".toUTF8),
    ("sec-websocket-version", "13".toUTF8), ("sec-websocket-key", "a2V5".toUTF8)]⟩

/-- A service with a push under a path. -/
def pushing (path : String) : Service Unit where
  caches := ⟨.ofCapacity 0, none⟩
  hub := .ofPushes
    [{ path, delay := 10, event := .request,
       handler := { type := "News", method := "tick", verb := .ws, pattern := path,
                    body := fun _ _ => pure default } }] 8
  world := ()

/-- Opens a socket under `/ws`. -/
def opened (path target : String) : Except (Option Message) Connection × Service Unit :=
  ((ofSettings bare {}).openSocket { files := {}, now := 0 } "1" (upgradeOf target)).run
    (pushing path)

theorem exists_accepted (path target : String) (ok : (opened path target).1.isOk = true) :
    ∃ c after, opened path target = (.ok c, after) := by
  cases h : opened path target with
  | mk answer after =>
    rw [h] at ok
    cases answer with
    | error e => cases ok
    | ok c => exact ⟨c, after, rfl⟩

/-- An escaped letter in the path, an escaped question mark in the query. -/
theorem handshake_of_accepted_coffee :
    ∃ c after, opened "/café" "/ws//caf%C3%A9?q=%3F&q=2" = (.ok c, after) ∧ c.path = "/café" ∧
      c.handshake.path = "/café" ∧ c.handshake.Gives [("q", "?"), ("q", "2")] := by
  obtain ⟨c, after, accepted⟩ :=
    exists_accepted "/café" "/ws//caf%C3%A9?q=%3F&q=2" (by decide +kernel)
  have target : (upgradeOf "/ws//caf%C3%A9?q=%3F&q=2").path =
      (ofSettings bare {}).socketRoot ++ "/" ++ "/caf%C3%A9" := by decide +kernel
  have escaped : Form.Escaped "/caf%C3%A9".toUTF8.data.toList "/café".toUTF8.data.toList := by
    have written : "/caf%C3%A9".toUTF8.data.toList =
        [47, 99, 97, 102, 37, 67, 51, 37, 65, 57] := by decide +kernel
    have read : "/café".toUTF8.data.toList = [47, 99, 97, 102, 12 * 16 + 3, 10 * 16 + 9] := by
      decide +kernel
    rw [written, read]
    exact .plain (by decide) (.plain (by decide) (.plain (by decide) (.plain (by decide)
      (.escape rfl rfl (.escape rfl rfl .nil)))))
  obtain ⟨bind, -, clear, -⟩ := handshake_of_accepted target escaped accepted
  obtain ⟨own, gives⟩ := clear (by decide +kernel)
  have path : c.path = "/café" := bind.trans (by decide +kernel)
  have pairs : queryPairs (upgradeOf "/ws//caf%C3%A9?q=%3F&q=2").query? =
      [("q", "?"), ("q", "2")] := by decide +kernel
  exact ⟨c, after, accepted, path, own.trans path, pairs ▸ gives⟩

/-- The request of an accepted upgrade has another path than the socket, if there is a question mark
in that, and pairs that nobody sent. -/
theorem not_forall_handshake_of_accepted :
    ¬ ∀ (server : Server Unit) (s : Surroundings) (fresh : String) (r : WireRequest)
        (written text : String) (service after : Service Unit) (c : Connection),
        r.path = server.socketRoot ++ "/" ++ written →
        Form.Escaped written.toUTF8.data.toList text.toUTF8.data.toList →
        (server.openSocket s fresh r).run service = (.ok c, after) →
        c.handshake.path = c.path ∧ c.handshake.Gives (queryPairs r.query?) := by
  intro law
  obtain ⟨c, after, accepted⟩ := exists_accepted "/a?b" "/ws/a%3Fb" (by decide +kernel)
  have target : (upgradeOf "/ws/a%3Fb").path = (ofSettings bare {}).socketRoot ++ "/" ++ "a%3Fb" := by
    decide +kernel
  have escaped : Form.Escaped "a%3Fb".toUTF8.data.toList "a?b".toUTF8.data.toList := by
    have written : "a%3Fb".toUTF8.data.toList = [97, 37, 51, 70, 98] := by decide +kernel
    have read : "a?b".toUTF8.data.toList = [97, 3 * 16 + 15, 98] := by decide +kernel
    rw [written, read]
    exact .plain (by decide) (.escape rfl rfl (.plain (by decide) .nil))
  obtain ⟨wished, -⟩ := law _ _ _ _ _ _ _ _ _ target escaped accepted
  obtain ⟨bind, made, -⟩ := bound_of_accepted target escaped accepted
  have path : c.path = "/a" ++ "?" ++ "b" := bind.trans (by decide +kernel)
  rw [made, path, (handshake_of_append (by decide +kernel) (by decide +kernel) "b" _).1]
    at wished
  exact absurd wished (by decide +kernel)

end Server

end Switchboard
