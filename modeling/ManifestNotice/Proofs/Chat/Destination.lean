import ManifestNotice.Proofs.Chat.History
import ManifestNotice.Proofs.Url.Site

/-!
# Where a client's requests go

The addresses of a client's requests are put together as texts. They lead to
the site of the server's own address, or nowhere (`site_of_target`), and so
does whatever a client sends. That is so for all servers but those without a
host, and for no other (`keeps_to_server_iff`).
-/

namespace ManifestNotice

open Http (Receipt Chain)

namespace Http

def siteOf? (address : List Char) : Option Url.Site :=
  ((Url.parse? address).filter fun url => url.isWeb && hasHost url).map Url.site

theorem hasHost_of_site {a b : Url} (h : a.site = b.site) : hasHost a = hasHost b := by
  rw [hasHost, hasHost, show a.host = b.host from congrArg Url.Site.host h]

theorem isWeb_of_site {a b : Url} (h : a.site = b.site) : a.isWeb = b.isWeb := by
  rw [Url.isWeb, Url.isWeb, show a.scheme = b.scheme from congrArg Url.Site.scheme h]

theorem siteOf?_of_site {address : List Char} {url : Url}
    (h : (Url.parse? address).map Url.site = some url.site) (hw : url.isWeb) (hh : hasHost url) :
    siteOf? address = some url.site := by
  obtain ⟨own, hown, hsite⟩ := Option.map_eq_some_iff.mp h
  rw [siteOf?, hown, Option.filter_some, isWeb_of_site hsite, hasHost_of_site hsite, hw, hh]
  simp [hsite]

theorem Target.site_ofUrl (url : Url) : (Target.ofUrl url).url.site = url.site := by
  unfold Target.ofUrl
  split <;> rfl

theorem Target.ofText_eq_ok {address : List Char} {target : Target}
    (h : ofText address = .ok target) :
    ∃ url, Url.parse? address = some url ∧ hasHost url ∧ target = ofUrl url := by
  unfold ofText at h
  split at h
  · cases h
  · next url hp =>
    split at h
    · next hh =>
      cases h
      exact ⟨url, hp, hh, rfl⟩
    · cases h

theorem Target.isWeb_of_isAskable {url : Url} (h : isAskable url) : url.isWeb := by
  simp only [isAskable, Bool.and_eq_true] at h
  exact h.1.1

end Http

namespace Chat

-- ---------------------------------------------------------------------------
-- Addresses
-- ---------------------------------------------------------------------------

theorem tokenPath_plain : Url.isPlainPath tokenPath := by decide +kernel

theorem messagePath_plain : Url.isPlainPath messagePath := by decide +kernel

theorem site_of_target {server : String} {path : List Char} {target : Http.Target}
    (hp : Url.isPlainPath path) (hl : Url.lacksHost server.toList = false)
    (h : Http.Target.ofText (addressOf server path) = .ok target)
    (ha : Http.Target.isAskable target.url) : Http.siteOf? server.toList = some target.url.site := by
  obtain ⟨url, hparse, hh, rfl⟩ := Http.Target.ofText_eq_ok h
  have hsite := Http.Target.site_ofUrl url
  have hw : url.isWeb := by
    rw [← Http.isWeb_of_site hsite]
    exact Http.Target.isWeb_of_isAskable ha
  rw [hsite]
  exact Http.siteOf?_of_site (Url.site_under hp hl hparse hw) hw hh

/-- What is asked is on the site of the server. -/
def OnSite (server : String) (request : Except Http.Fault Http.Request) : Prop :=
  ∀ built, request = .ok built → Http.Target.isAskable built.url →
    Http.siteOf? server.toList = some built.url.site

theorem tokenRequest_url (credentials : Credentials) :
    (tokenRequest credentials).map (·.url) =
      (Http.Target.ofText (addressOf credentials.serverUrl tokenPath)).map (·.url) := by
  unfold tokenRequest
  cases Http.Target.ofText (addressOf credentials.serverUrl tokenPath) <;> rfl

theorem tokenRequest_onSite {credentials : Credentials}
    (hl : Url.lacksHost credentials.serverUrl.toList = false) :
    OnSite credentials.serverUrl (tokenRequest credentials) := by
  intro built hb ha
  have hurl := tokenRequest_url credentials
  rw [hb] at hurl
  cases ht : Http.Target.ofText (addressOf credentials.serverUrl tokenPath) with
  | error fault =>
    rw [ht] at hurl
    cases hurl
  | ok target =>
    rw [ht] at hurl
    have hsame : built.url = target.url := Except.ok.inj hurl
    rw [hsame] at ha ⊢
    exact site_of_target tokenPath_plain hl ht ha

theorem messageRequest_onSite {server : String} (hl : Url.lacksHost server.toList = false)
    (token channel text : String) :
    OnSite server (messageRequest server token channel text) := by
  intro built hb ha
  obtain ⟨target, ht, rfl⟩ := messageRequest_eq_ok hb
  exact site_of_target messagePath_plain hl ht ha

/-- Without a host of the server, the credentials go to another one. -/
theorem tokenRequest_of_lacksHost (clientId clientSecret : String) {server : String}
    (h : Url.lacksHost server.toList) :
    ∃ request, tokenRequest ⟨clientId, clientSecret, server⟩ = .ok request ∧
      Http.Target.isAskable request.url := by
  obtain ⟨scheme, hw, hparse⟩ := Url.parse?_under_of_lacksHost tokenPath_plain h
  have hread : (({ scheme } : Url).withAuthority? (tokenPath.dropWhile (Url.separates true))).any
      fun url => Http.hasHost url && Http.Target.isAskable (Http.Target.ofUrl url).url := by
    simp only [Url.isWeb, Bool.or_eq_true, beq_iff_eq] at hw
    rcases hw with rfl | rfl <;> decide +kernel
  obtain ⟨url, hurl, hgood⟩ := (Option.any_eq_true ..).mp hread
  rw [Bool.and_eq_true] at hgood
  rw [hurl] at hparse
  have htarget : Http.Target.ofText (addressOf server tokenPath) = .ok (Http.Target.ofUrl url) := by
    rw [Http.Target.ofText, addressOf, hparse]
    exact if_pos hgood.1
  have hrequest := tokenRequest_url ⟨clientId, clientSecret, server⟩
  rw [htarget] at hrequest
  cases hr : tokenRequest ⟨clientId, clientSecret, server⟩ with
  | error fault =>
    rw [hr] at hrequest
    cases hrequest
  | ok request =>
    rw [hr] at hrequest
    have hsame : request.url = (Http.Target.ofUrl url).url := Except.ok.inj hrequest
    exact ⟨request, rfl, hsame ▸ hgood.2⟩

-- ---------------------------------------------------------------------------
-- Calls
-- ---------------------------------------------------------------------------

/-- A request on the site with its redirects, or nothing. -/
inductive StartsAt (site? : Option Url.Site) : List Receipt → Prop
  | nothing : StartsAt site? []
  | chain {request arrived} : site? = some request.url.site → Chain 0 request arrived →
      StartsAt site? arrived

/-- Whatever the call sends starts on the site of the server, which has to be
a web address with a host. -/
def Call.KeepsTo (server : String) (call : Call) : Prop :=
  ∃ first later, call.arrivals = first ++ later ∧
    StartsAt (Http.siteOf? server.toList) first ∧ StartsAt (Http.siteOf? server.toList) later

theorem Call.KeepsTo.silent {call : Call} (h : call.KeepsTo server)
    (hs : Http.siteOf? server.toList = none) : call.arrivals = [] := by
  obtain ⟨first, later, ha, hfirst, hlater⟩ := h
  rw [hs] at hfirst hlater
  cases hfirst with
  | nothing =>
    cases hlater with
    | nothing => exact ha
    | chain hsite => cases hsite
  | chain hsite => cases hsite

namespace Client

section
variable (client : Client)

theorem asked_starts {request : Except Http.Fault Http.Request} {server : String}
    (h : OnSite server request) (backend : Http.Backend) :
    ∃ arrived, (client.asked request backend).2.receipts = backend.receipts ++ arrived ∧
      StartsAt (Http.siteOf? server.toList) arrived := by
  cases request with
  | error fault => exact ⟨[], (List.append_nil _).symm, .nothing⟩
  | ok built =>
    show ∃ arrived, (Http.exchange client.network built backend).2.receipts = _ ∧ _
    by_cases ha : Http.Target.isAskable built.url
    · obtain ⟨arrived, hx⟩ := Http.exchange_exchanged client.network built backend
      exact ⟨arrived, hx.receipts, .chain (h built rfl ha) hx.chain⟩
    · rw [Http.exchange, if_neg ha]
      exact ⟨[], (List.append_nil _).symm, .nothing⟩

theorem token_starts (hl : Url.lacksHost client.credentials.serverUrl.toList = false)
    (session : Session) :
    ∃ arrived, (client.token.run.run session).2.backend.receipts =
        session.backend.receipts ++ arrived ∧
      StartsAt (Http.siteOf? client.credentials.serverUrl.toList) arrived := by
  have hasked := client.asked_starts (tokenRequest_onSite hl) session.backend
  rw [token_run]
  cases session.freshToken? with
  | some token => exact ⟨[], (List.append_nil _).symm, .nothing⟩
  | none => exact hasked

theorem perform_keeps (hl : Url.lacksHost client.credentials.serverUrl.toList = false)
    (action : Action) (session : Session) :
    (client.perform action session).KeepsTo client.credentials.serverUrl := by
  obtain ⟨first, hfirst, hstart⟩ := client.token_starts hl session
  cases action with
  | advance seconds => exact ⟨[], [], arrivals_advance client seconds session, .nothing, .nothing⟩
  | authenticate =>
    refine ⟨first, [], ?_, hstart, .nothing⟩
    rw [arrivals_authenticate hfirst, List.append_nil]
  | post channel text =>
    rcases hdrawn : client.token.run.run session with ⟨fault | token, after⟩
    · rw [hdrawn] at hfirst
      refine ⟨first, [], ?_, hstart, .nothing⟩
      rw [arrivals_post_of_error hdrawn hfirst, List.append_nil]
    · rw [hdrawn] at hfirst
      obtain ⟨later, hlater, hsecond⟩ :=
        client.asked_starts (messageRequest_onSite hl token.value channel text) after.backend
      exact ⟨first, later, arrivals_post_of_ok hdrawn hfirst hlater, hstart, hsecond⟩

/-- The credentials of a client without a token are sent where it is answered. -/
theorem authenticate_receives {session : Session} {request : Http.Request}
    (hf : session.freshToken? = none) (hr : tokenRequest client.credentials = .ok request)
    (ha : Http.Target.isAskable request.url) (hn : client.network request.url = .answered) :
    ∃ rest, (client.perform .authenticate session).arrivals =
      .request request 0 session.backend.nextReply :: rest := by
  obtain ⟨rest, hrest⟩ := Http.exchange_receives client.network request session.backend ha hn
  refine ⟨rest, arrivals_authenticate ?_⟩
  rw [token_run, hf]
  show (client.exchanged session.backend).2.receipts = _
  rw [exchanged, hr]
  exact hrest

end

/-- Every client of the server keeps to it, unless the server has no host. -/
theorem keeps_to_server_iff (server : String) :
    (∀ (clientId clientSecret : String) (network : Http.Network) (actions : List Action)
        (backend : Http.Backend),
      ∀ call ∈ calls ⟨⟨clientId, clientSecret, server⟩, network⟩ actions { backend },
        call.KeepsTo server) ↔
      Url.lacksHost server.toList = false := by
  constructor
  · intro h
    by_contra hl
    rw [Bool.not_eq_false] at hl
    let client : Client := ⟨⟨"", "", server⟩, fun _ => .answered⟩
    let backend : Http.Backend := { script := [], clock := 0 }
    have hkeeps := h "" "" (fun _ => .answered) [.authenticate] backend
      (client.perform .authenticate { backend }) List.mem_cons_self
    have hnone : Http.siteOf? server.toList = none := by
      rw [Http.siteOf?, Url.parse?_of_lacksHost hl]
      rfl
    obtain ⟨request, hrequest, ha⟩ := tokenRequest_of_lacksHost "" "" hl
    have hf : Session.freshToken? { backend } = none := rfl
    obtain ⟨rest, harrivals⟩ := client.authenticate_receives hf hrequest ha rfl
    exact List.cons_ne_nil _ _ (harrivals.symm.trans (hkeeps.silent hnone))
  · intro hl clientId clientSecret network actions backend call hc
    rw [eq_perform_of_mem hc]
    exact perform_keeps ⟨⟨clientId, clientSecret, server⟩, network⟩ hl call.action call.before

/-- The server has no host, and the credentials are sent. -/
theorem leaves_server_without_host :
    ¬ ∀ (server clientId clientSecret : String) (network : Http.Network) (actions : List Action)
        (backend : Http.Backend),
      ∀ call ∈ calls ⟨⟨clientId, clientSecret, server⟩, network⟩ actions { backend },
        call.KeepsTo server := by
  intro h
  let client : Client := ⟨⟨"good-id", "good-secret", "http://"⟩, Http.Network.scripted⟩
  let grant := Utf8.ofString "\x7b\"access_token\":\"t1\"\x7d"
  let backend : Http.Backend := { script := [{ status := 200, body := grant }], clock := 0 }
  let call := client.perform .authenticate { backend }
  have hkeeps := h "http://" "good-id" "good-secret" Http.Network.scripted [.authenticate] backend
    call List.mem_cons_self
  have hsilent := hkeeps.silent (Option.isNone_iff_eq_none.mp (by decide +kernel))
  revert hsilent
  decide +kernel

end Client

end Chat

end ManifestNotice
