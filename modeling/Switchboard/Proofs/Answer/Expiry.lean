import Switchboard.Config.Validation
import Switchboard.Proofs.Answer.Revalidation
import Switchboard.Proofs.Rpc.Resolution

/-!
# When a resource is to be asked for again

A resource that may be kept says until when: the reading of the clock and the seconds of the settings
(`Dispatcher.serveResource_expires`). The calendar has a last second, and the settings may well reach
beyond it. `Registry.resource_expires` says for which seconds they do, for every engine that is built
from settings: there, and nowhere else, nothing is sent. Settings that pass every check reach beyond
it from a clock of our days (`Registry.not_forall_expiry_told`).
-/

namespace Switchboard

namespace Dispatcher

/-- The seconds for which a resource is kept: a lifetime that is too long counts as none. -/
def kept (lifetime : Nat) : Int := if lifetime ≤ longestLifetime then (lifetime : Int) else 0

theorem kept_nonneg (lifetime : Nat) : 0 ≤ kept lifetime := by
  unfold kept
  split <;> omega

/-- A clock that the calendar reaches is behind its end if anything is. -/
theorem expiry?_eq {now : Int} (clock : Time.firstSecond ≤ now) (lifetime : Nat) :
    expiry? now lifetime =
      if now + kept lifetime ≤ Time.lastSecond then some (now + kept lifetime) else none := by
  have later := kept_nonneg lifetime
  unfold expiry?
  change (if Time.inRange (Time.Moment.ofSeconds (now + kept lifetime)).date.year = true then _
    else _) = _
  simp only [Time.inRange_ofSeconds_iff]
  refine if_congr ?_ rfl rfl
  omega

variable {settings : StaticSettings} {request : Request} {modified : Time.Stamp}

/-- A resource that is sent whole says when it is to be asked for again. -/
theorem serveResource_expires (caching : settings.caching = true) (now : Int)
    (contentType : String) (contents : ByteArray) (r : Response)
    (stale : isFresh request modified = false) {expires : Int}
    (he : expiry? now settings.lifetime = some expires) :
    ∃ sent, serveResource settings now contentType contents modified request r = some sent ∧
      sent.headers.text? "expires" = some (Time.HttpDate.render expires) := by
  unfold serveResource
  simp only [caching, stale, he, Bool.not_true, Bool.false_eq_true, ↓reduceIte,
    Option.bind_eq_bind, Option.bind_some, Option.pure_def, Response.setHeader]
  have changed : Headers.name? "last-modified" = some "last-modified" := by decide
  have control : Headers.name? "cache-control" = some "cache-control" := by decide
  refine ⟨_, rfl, ?_⟩
  rw [Headers.text?_setText_of_ne changed (by decide),
    Headers.text?_setText_of_ne control (by decide)]
  exact Headers.text?_setText (by decide) (Time.HttpDate.all_isVisible_render _) _

end Dispatcher

namespace Registry

variable {σ : Type} {r : Registry σ} {settings : Settings} {files : FileSystem} {world : σ}
  {engine : Engine σ} {service : Service σ}

/-- An engine serves resources as its settings say. -/
theorem settings_of_build (built : r.build settings files world = .ok (engine, service)) :
    engine.dispatcher.settings = ⟨settings.http.staticCache, settings.http.cacheLifetime⟩ := by
  obtain ⟨-, -, -, -, asConfigured⟩ := exists_of_build built
  exact asConfigured

/-- **When a resource is to be asked for again.** The time is that of the clock and the seconds of the
settings. Nothing is sent exactly if it lies behind the end of the calendar, and the client has not
the version already. -/
theorem resource_expires (built : r.build settings files world = .ok (engine, service))
    (caching : settings.http.staticCache = true) (s : Surroundings)
    (clock : Time.firstSecond ≤ s.now) (current : Service σ) (request : Request)
    (path contentType : String) (contents : ByteArray) (modified : Time.Stamp) :
    let expires := s.now + Dispatcher.kept settings.http.cacheLifetime
    let answer :=
      ((engine.carryOut s request (.resource path contentType contents modified)).run current).1
    (answer = none ↔
      Dispatcher.isFresh request modified = false ∧ Time.lastSecond < expires) ∧
    (Dispatcher.isFresh request modified = false → expires ≤ Time.lastSecond →
      ∃ sent, answer = some sent ∧
        sent.headers.text? "expires" = some (Time.HttpDate.render expires)) := by
  have asConfigured := settings_of_build built
  have cached : engine.dispatcher.settings.caching = true := by
    rw [asConfigured]
    exact caching
  have lifetime : engine.dispatcher.settings.lifetime = settings.http.cacheLifetime := by
    rw [asConfigured]
  have told := Dispatcher.expiry?_eq clock engine.dispatcher.settings.lifetime
  dsimp only
  rw [Engine.carryOut_resource, ← lifetime]
  cases fresh : Dispatcher.isFresh request modified with
  | true =>
    rw [Dispatcher.serveResource_fresh cached s.now contentType contents {} fresh]
    exact ⟨⟨nofun, fun h => nomatch h.1⟩, nofun⟩
  | false =>
    by_cases inside : s.now + Dispatcher.kept engine.dispatcher.settings.lifetime ≤ Time.lastSecond
    · rw [if_pos inside] at told
      obtain ⟨sent, served, expires⟩ :=
        Dispatcher.serveResource_expires cached s.now contentType contents {} fresh told
      rw [served]
      refine ⟨⟨nofun, fun h => absurd inside (Int.not_le.2 h.2)⟩, fun _ _ => ?_⟩
      exact ⟨sent, rfl, expires⟩
    · rw [if_neg inside] at told
      rw [Dispatcher.serveResource_endless cached s.now contentType contents {} fresh told]
      exact ⟨⟨fun _ => ⟨rfl, Int.not_le.1 inside⟩, fun _ => rfl⟩, fun _ h => absurd h inside⟩

/-- Settings that let clients keep resources for some seconds. -/
def lending (seconds : Nat) : Settings :=
  { http := { staticCache := true, cacheLifetime := seconds } }

theorem resource_expires_in_a_day :
    ∃ (engine : Engine Unit) (service : Service Unit),
      ({} : Registry Unit).build (lending 86400) {} () = .ok (engine, service) ∧
      (lending 86400).http.staticCache = true ∧ Time.firstSecond ≤ 1751234567 ∧
      ∃ sent, ((engine.carryOut { files := {}, now := 1751234567 } (Engine.asking none)
        (.resource "/site.css" "text/css" "body".toUTF8 Engine.changed)).run service).1 =
          some sent ∧
        sent.headers.text? "expires" = some "Mon, 30 Jun 2025 22:02:47 GMT" := by
  have clock : Time.firstSecond ≤ 1751234567 := by decide
  have stale : Dispatcher.isFresh (Engine.asking none) Engine.changed = false := by decide +kernel
  obtain ⟨engine, service, built⟩ : ∃ engine service,
      ({} : Registry Unit).build (lending 86400) {} () = .ok (engine, service) := ⟨_, _, rfl⟩
  have inside : 1751234567 + Dispatcher.kept (lending 86400).http.cacheLifetime ≤
      Time.lastSecond := by decide
  have text : Time.HttpDate.render 1751320967 = "Mon, 30 Jun 2025 22:02:47 GMT" := by decide
  obtain ⟨sent, answer, told⟩ := (resource_expires built rfl { files := {}, now := 1751234567 }
    clock service (Engine.asking none) "/site.css" "text/css" "body".toUTF8 Engine.changed).2
    stale inside
  exact ⟨engine, service, built, rfl, clock, sent, answer, told.trans (congrArg some text)⟩

/-- A file of settings that lets clients keep resources for 285 thousand years. -/
def lendingFile : String := "[http]\nstatic_cache = true\ncache_ttl_secs = 9000000000000\n"

/-- Settings that are read from a file and pass every check may reach beyond the calendar, with a
clock of 2025. -/
theorem not_forall_expiry_told :
    ¬ ∀ (text : String) (settings : Settings) (r : Registry Unit) (engine : Engine Unit)
        (service : Service Unit) (request : Request) (path contentType : String)
        (contents : ByteArray) (modified : Time.Stamp),
      Settings.parse text = .ok settings → settings.http.staticCache = true →
      r.build settings {} () = .ok (engine, service) →
      ((engine.carryOut { files := {}, now := 1751234567 } request
        (.resource path contentType contents modified)).run service).1 ≠ none := by
  intro told
  have read : (Settings.parse lendingFile).toOption = some (lending 9000000000000) := by
    decide +kernel
  have valid : Settings.parse lendingFile = .ok (lending 9000000000000) := by
    cases parsed : Settings.parse lendingFile with
    | error e =>
      rw [parsed] at read
      cases read
    | ok settings =>
      rw [parsed] at read
      cases read
      rfl
  obtain ⟨engine, service, built⟩ : ∃ engine service,
      ({} : Registry Unit).build (lending 9000000000000) {} () = .ok (engine, service) :=
    ⟨_, _, rfl⟩
  have caching : engine.dispatcher.settings.caching = true := by rw [settings_of_build built]; rfl
  have stale : Dispatcher.isFresh (Engine.asking none) Engine.changed = false := by decide +kernel
  have endless : Dispatcher.expiry? 1751234567 engine.dispatcher.settings.lifetime = none := by
    rw [settings_of_build built]
    decide
  refine told lendingFile _ {} engine service (Engine.asking none) "/site.css" "text/css"
    "body".toUTF8 Engine.changed valid rfl built ?_
  rw [Engine.carryOut_resource]
  exact Dispatcher.serveResource_endless caching 1751234567 "text/css" "body".toUTF8 {} stale
    endless

end Registry

end Switchboard
