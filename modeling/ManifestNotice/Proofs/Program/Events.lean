import ManifestNotice.Proofs.Chat.Events
import ManifestNotice.Proofs.Program.Verbatim

/-!
# Events of a run

What a delivery logs tells what it has done (`events_mirror`): which notice it
was to deliver, when it exchanged the credentials, whether it had a token to post
with and whether it succeeded.
-/

namespace ManifestNotice

open Chat (Client Session endsInExchange isPosting)
open Log (Event)

def Variant.names (variant : Variant) (renews : Bool) : List String :=
  (match variant with
    | .developers => ["reading latest commit message"]
    | .plain => []) ++ Chat.names renews

namespace Machine

section
variable (machine : Machine) (client : Client) (variant : Variant) (settings : Settings)

def delivered (script : List Http.Reply) (clock : Nat) : Except Fault Unit × Run :=
  (Delivery.run (machine.services client) variant settings).run.run (Run.fresh script clock)

/-- The session in which a run that has its notice begins to deliver it. -/
def sessionToDeliver? (start : Run) : Option Session :=
  (machine.notice variant settings).1.toOption.map fun _ =>
    start.session.noted variant.announcement

def exchangesOf (start : Run) : List Session :=
  (machine.sessionToDeliver? variant settings start).elim [] (client.exchangesOf settings)

def tokenToPost? (start : Run) : Option Chat.Token :=
  (machine.sessionToDeliver? variant settings start).bind (client.tokenToPost? settings)

/-- The log of a run that has ended, and what it did. -/
structure Mirrors (start : Run) (done : Except Fault Unit × Run) : Prop where
  succeeded : .noticeSent ∈ done.2.session.events ↔ done.1 = .ok ()
  /-- Once, and last. -/
  sentLast : done.1 = .ok () →
    ∃ front, done.2.session.events = front ++ [.noticeSent] ∧ .noticeSent ∉ front
  /-- Once, and first. -/
  commitRead : variant = .developers →
    ∃ rest, done.2.session.events = .readingCommit :: rest ∧ .readingCommit ∉ rest
  commitUnread : variant = .plain → .readingCommit ∉ done.2.session.events
  /-- Where the log comes to an exchange, the credentials are exchanged, and nowhere else. -/
  exchanges : done.2.session.events.inits.filter endsInExchange =
    (machine.exchangesOf client variant settings start).map Session.events
  /-- Each sends one request for a token, which arrives if the server is in reach. -/
  asks : ∀ session ∈ machine.exchangesOf client variant settings start,
    client.Asks 1 (client.arrivedIn session)
  /-- What comes after all that arrives for the exchanges is no exchange. -/
  arrivals : ∃ later, done.2.session.backend.receipts =
    (machine.exchangesOf client variant settings start).flatMap client.arrivedIn ++ later ∧
      client.Aside later
  posted {token : Chat.Token} : machine.tokenToPost? client variant settings start = some token →
    ∃ text, machine.Composes settings variant text ∧
      done.2.session.events.filter isPosting =
        [.postingMessage settings.channelId (Utf8.ofString text).length]
  unposted : machine.tokenToPost? client variant settings start = none →
    done.2.session.events.filter isPosting = []
  success : done.1 = .ok () →
    ∃ renews, done.2.session.events.map Event.message = variant.names renews
  failure {fault : Fault} : done.1 = .error fault →
    ∃ renews, done.2.session.events.map Event.message <+: variant.names renews ∧
      done.2.session.events.map Event.message ≠ variant.names renews

end

-- ---------------------------------------------------------------------------
-- Announcements
-- ---------------------------------------------------------------------------

section
variable (variant : Variant)

theorem noticeSent_not_mem_announcement : .noticeSent ∉ variant.announcement := by
  cases variant <;> simp [Variant.announcement]

theorem filter_isPosting_announcement : variant.announcement.filter isPosting = [] := by
  cases variant <;> rfl

theorem not_notesExchange_announcement :
    ∀ event ∈ variant.announcement, Chat.notesExchange event = false := by
  cases variant <;> simp [Variant.announcement, Chat.notesExchange]

theorem names_announcement (renews : Bool) :
    variant.names renews = variant.announcement.map Event.message ++ Chat.names renews := by
  cases variant <;> rfl

end

-- ---------------------------------------------------------------------------
-- Runs
-- ---------------------------------------------------------------------------

section
variable {machine : Machine} {client : Client} {variant : Variant} {settings : Settings}

theorem mirrors_unread {fault : Commit.Fault} (script : List Http.Reply) (clock : Nat)
    (hn : (machine.notice variant settings).1 = .error fault) :
    machine.Mirrors client variant settings (Run.fresh script clock)
      (.error (.commit fault), ((Run.fresh script clock).noted variant.announcement).called
        (machine.notice variant settings).2) := by
  have hnone : machine.sessionToDeliver? variant settings (Run.fresh script clock) = none := by
    rw [sessionToDeliver?, hn]
    rfl
  have hexchanges : machine.exchangesOf client variant settings (Run.fresh script clock) = [] := by
    rw [exchangesOf, hnone]
    rfl
  exact {
    succeeded := iff_of_false (noticeSent_not_mem_announcement variant) (by simp)
    sentLast := by
      rintro ⟨⟩
    commitRead := by
      rintro rfl
      exact ⟨[], rfl, List.not_mem_nil⟩
    commitUnread := by
      rintro rfl
      exact List.not_mem_nil
    exchanges := by
      rw [hexchanges]
      cases variant <;> rfl
    asks := fun session _ => client.arrivedIn_asks session
    arrivals := by
      rw [hexchanges]
      exact ⟨[], rfl, .nil⟩
    posted := by
      intro token ht
      rw [tokenToPost?, hnone] at ht
      cases ht
    unposted := fun _ => filter_isPosting_announcement variant
    success := by
      rintro ⟨⟩
    failure := by
      intro _ _
      refine ⟨false, ?_⟩
      rw [names_announcement]
      exact ⟨List.prefix_append .., by simp [Run.noted, Run.called, Run.fresh, Chat.names]⟩ }

theorem mirrors_of_logged {text : String} {start : Run} {done : Except Fault Unit × Run}
    {marks : List (List Event)} {noted : List Event}
    (hn : (machine.notice variant settings).1 = .ok text)
    (hlogged : client.Logged settings text marks
      (machine.tokenToPost? client variant settings start) done.1 noted)
    (hmarks : (machine.exchangesOf client variant settings start).map Session.events =
      marks.map (variant.announcement ++ ·))
    (hevents : done.2.session.events = variant.announcement ++ noted)
    (harrivals : ∃ later, done.2.session.backend.receipts =
      (machine.exchangesOf client variant settings start).flatMap client.arrivedIn ++ later ∧
        client.Aside later) :
    machine.Mirrors client variant settings start done where
  succeeded := by
    rw [hevents, List.mem_append, hlogged.noticeSent_iff,
      or_iff_right (noticeSent_not_mem_announcement variant)]
  sentLast := by
    intro hsucceeded
    rw [hsucceeded] at hlogged
    obtain ⟨front, rfl, hnot⟩ := hlogged.noticeSent_last
    refine ⟨variant.announcement ++ front, by rw [hevents, List.append_assoc], ?_⟩
    rw [List.mem_append, not_or]
    exact ⟨noticeSent_not_mem_announcement variant, hnot⟩
  commitRead := by
    rintro rfl
    exact ⟨noted, hevents, hlogged.readingCommit_not_mem⟩
  commitUnread := by
    rintro rfl
    rw [hevents]
    exact hlogged.readingCommit_not_mem
  exchanges := by
    rw [hmarks, hevents, Chat.inits_append (not_notesExchange_announcement variant),
      hlogged.marks_eq]
  asks session _ := client.arrivedIn_asks session
  arrivals := harrivals
  posted := by
    intro token ht
    refine ⟨text, composes_of_notice hn, ?_⟩
    rw [hevents, List.filter_append, filter_isPosting_announcement, hlogged.posting_eq, ht,
      Utf8.ofString, Utf8.length_encode]
    rfl
  unposted := by
    intro ht
    rw [hevents, List.filter_append, filter_isPosting_announcement, hlogged.posting_eq, ht]
    rfl
  success := by
    intro hsucceeded
    rw [hsucceeded] at hlogged
    obtain ⟨renews, hnames⟩ := hlogged.names_eq
    exact ⟨renews, by rw [hevents, List.map_append, hnames, names_announcement]⟩
  failure := by
    intro fault hfailed
    rw [hfailed] at hlogged
    obtain ⟨renews, hfront, hproper⟩ := hlogged.names_broken_off
    refine ⟨renews, ?_⟩
    rw [hevents, List.map_append, names_announcement, List.prefix_append_right_inj]
    exact ⟨hfront, fun h => hproper (List.append_cancel_left h)⟩

theorem mirrors_delivered {text : String} (script : List Http.Reply) (clock : Nat)
    (hn : (machine.notice variant settings).1 = .ok text) :
    machine.Mirrors client variant settings (Run.fresh script clock)
      ((Run.chat (client.deliver settings text)).run.run
        (((Run.fresh script clock).noted variant.announcement).called
          (machine.notice variant settings).2)) := by
  generalize hsession : (Run.fresh script clock).session.noted variant.announcement = session
  have hready : machine.sessionToDeliver? variant settings (Run.fresh script clock) =
      some session := by
    rw [sessionToDeliver?, hn, ← hsession]
    rfl
  have hpost : machine.tokenToPost? client variant settings (Run.fresh script clock) =
      client.tokenToPost? settings session := by
    rw [tokenToPost?, hready, Option.bind_some]
  have hexchanges : machine.exchangesOf client variant settings (Run.fresh script clock) =
      client.exchangesOf settings session := by
    rw [exchangesOf, hready, Option.elim_some]
  have htoken : session.token = none := by rw [← hsession]; rfl
  have hfront : session.events = variant.announcement := by rw [← hsession]; rfl
  have hunasked : session.backend.receipts = [] := by rw [← hsession]; rfl
  obtain ⟨marks, noted, hlogged, hmarks, hevents⟩ := client.deliver_logged settings text htoken
  have harrived := client.deliver_arrived session settings text
  rw [← hpost] at hlogged
  rw [← hexchanges, hfront] at hmarks
  rw [hfront] at hevents
  rw [hunasked, ← hexchanges] at harrived
  have hsame : (((Run.fresh script clock).noted variant.announcement).called
      (machine.notice variant settings).2).session = session := hsession
  rw [Run.chat_run, hsame]
  exact mirrors_of_logged hn hlogged hmarks hevents harrived

end

/-- A run of the variant that succeeds logs events of these names. -/
def SucceedsWith (variant : Variant) (names : List String) : Prop :=
  ∃ (machine : Machine) (client : Client) (settings : Settings) (script : List Http.Reply)
    (clock : Nat), (machine.delivered client variant settings script clock).1 = .ok () ∧
    (machine.delivered client variant settings script clock).2.session.events.map Event.message =
      names

/-- The token of the first exchange lasts for half a minute only, if it is to be
renewed. -/
theorem succeedsWith_names (variant : Variant) (renews : Bool) :
    SucceedsWith variant (variant.names renews) := by
  let tool : Commit.Outcome := { stdout := Utf8.ofString "m\n" }
  let place : Commit.Place := {
    files := .directory [(Commit.toolName, .file [] (some tool))]
    current := []
    searchPath := [[]] }
  let machine : Machine := { place, environment := [], network := .scripted }
  let client : Client := ⟨⟨"id", "secret", "http://h"⟩, fun _ => .answered⟩
  let grant (lifetime : String) : Http.Reply :=
    { status := 200
      body := Utf8.ofString
        ("\x7b\"access_token\":\"t\",\"expires_in\":" ++ lifetime ++ "\x7d") }
  let script := (if renews then [grant "30"] else []) ++ [grant "60", { status := 200 }]
  have hholds : place.Holds [] [Commit.toolName] tool := Commit.Place.holds_current rfl rfl
  obtain ⟨hsearchable, hfirst⟩ := Commit.Place.first_of_only rfl hholds
  have hread : (Commit.read machine.place none).1 = .ok "m" := by
    rw [Commit.read_of_first hsearchable hfirst]
    decide +kernel
  let text := match variant with
    | .developers => Notice.developers ({} : Settings).folder ({} : Settings).branch "m"
    | .plain => Notice.plain ({} : Settings).folder
  have hnotice : (machine.notice variant {}).1 = .ok text := by
    cases variant with
    | plain => rfl
    | developers =>
      show (Commit.read place none).1.map _ = _
      rw [hread]
      rfl
  have hdeliver : ((client.deliver {} text).run.run
        { backend := { script, clock := 0 }, events := variant.announcement }).1 = .ok () ∧
      ((client.deliver {} text).run.run
        { backend := { script, clock := 0 }, events := variant.announcement }).2.events.map
          Event.message = variant.names renews := by
    cases variant <;> cases renews <;> decide +kernel
  have hsame : (((Run.fresh script 0).noted variant.announcement).called
      (machine.notice variant {}).2).session =
      { backend := { script, clock := 0 }, events := variant.announcement } := rfl
  refine ⟨machine, client, {}, script, 0, ?_⟩
  rw [delivered, delivery_run]
  simp only [hnotice]
  rw [Run.chat_run, hsame]
  generalize (client.deliver {} text).run.run _ = done at hdeliver ⊢
  exact hdeliver

theorem delivered_mirrors (machine : Machine) (client : Client) (variant : Variant)
    (settings : Settings) (script : List Http.Reply) (clock : Nat) :
    machine.Mirrors client variant settings (Run.fresh script clock)
      (machine.delivered client variant settings script clock) := by
  rw [delivered, delivery_run]
  cases hn : (machine.notice variant settings).1 with
  | error fault => exact mirrors_unread script clock hn
  | ok text => exact mirrors_delivered script clock hn

/-- The names of a log are two at most, if the run succeeds. -/
theorem events_mirror (machine : Machine) (client : Client) (variant : Variant)
    (settings : Settings) (script : List Http.Reply) (clock : Nat) :
    machine.Mirrors client variant settings (Run.fresh script clock)
        (machine.delivered client variant settings script clock) ∧
      ∀ names, SucceedsWith variant names ↔ ∃ renews, names = variant.names renews := by
  refine ⟨machine.delivered_mirrors client variant settings script clock, fun names => ?_⟩
  constructor
  · rintro ⟨machine, client, settings, script, clock, hsucceeded, rfl⟩
    exact (machine.delivered_mirrors client variant settings script clock).success hsucceeded
  · rintro ⟨renews, rfl⟩
    exact succeedsWith_names variant renews

end Machine

end ManifestNotice
