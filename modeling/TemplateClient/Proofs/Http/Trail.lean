import TemplateClient.Http.Exchange
import TemplateClient.Proofs.Prelude

/-!
# What a network is asked

A client asks a network once, and again only where the reply points elsewhere. Every request that it
makes is in the list that the network keeps, so the list tells how often a post was attempted, and
with which reply the client came back.

* `Network.Trail`, `Network.trail_ask` -- the requests of a client, one after the other;
* `HttpReply.Redirects`, `Client.redirects_of_next?` -- the replies that point elsewhere;
* `Network.Posted`, `Network.posted_fetch` -- what is asked when values are posted to a URL.
-/

namespace TemplateClient

/-! ## 1. Replies that point elsewhere -/

/-- The reply names a place, and has one of the statuses that send a client there. -/
def HttpReply.Redirects (reply : HttpReply) : Prop :=
  reply.status ∈ [301, 302, 303, 307, 308] ∧ reply.location ≠ none

theorem HttpRequest.redirected?_ne_none {request : HttpRequest} {status : Nat}
    (h : request.redirected? status ≠ none) : status ∈ [301, 302, 303, 307, 308] := by
  simp only [List.mem_cons, List.not_mem_nil, or_false]
  refine Decidable.by_contra fun hstatus => h ?_
  rw [redirected?, if_neg (by omega), if_neg (by omega), if_neg (by omega)]

/-- The request that follows a reply goes to the place that the reply names. -/
theorem Client.exists_of_next? {c : Client} {origin : Origin} {request : HttpRequest}
    {reply : HttpReply} {next : Option (Origin × HttpRequest)}
    (h : c.next? origin request reply = some next) :
    ∃ location redirected, reply.location = some location ∧
      request.redirected? reply.status = some redirected ∧
      ∀ p, next = some p → ∃ target, p.2 = redirected target := by
  obtain ⟨-, -, h⟩ := Option.bind_eq_some_iff.mp h
  obtain ⟨redirected, hredirected, h⟩ := Option.bind_eq_some_iff.mp h
  obtain ⟨location, hlocation, h⟩ := Option.bind_eq_some_iff.mp h
  obtain ⟨place, -, hnext⟩ := Option.bind_eq_some_iff.mp h
  refine ⟨location, redirected, hlocation, hredirected, fun p hp => ?_⟩
  obtain ⟨address, -, rfl⟩ := Option.map_eq_some_iff.mp ((Option.some.inj hnext).trans hp)
  exact ⟨address.target, rfl⟩

/-- A client goes on only after a reply that points elsewhere. -/
theorem Client.redirects_of_next? {c : Client} {origin : Origin} {request : HttpRequest}
    {reply : HttpReply} {next : Option (Origin × HttpRequest)}
    (h : c.next? origin request reply = some next) : reply.Redirects := by
  obtain ⟨location, redirected, hlocation, hredirected, -⟩ := exists_of_next? h
  have moved : request.redirected? reply.status ≠ none := hredirected ▸ Option.some_ne_none _
  exact ⟨HttpRequest.redirected?_ne_none moved, hlocation ▸ Option.some_ne_none _⟩

theorem Client.next?_eq_none {c : Client} {origin : Origin} {request : HttpRequest}
    {reply : HttpReply} (h : ¬ reply.Redirects) : c.next? origin request reply = none :=
  Option.eq_none_iff_forall_ne_some.mpr fun _ hnext => h (redirects_of_next? hnext)

/-- The request posts the values, or is a plain reading. -/
inductive HttpRequest.Carries (values : FormValues) : HttpRequest → Prop where
  | post (target : String) :
      Carries values ⟨"POST", target, some "application/json", values.toText⟩
  | reading (target : String) : Carries values ⟨"GET", target, none, ""⟩

theorem HttpRequest.Carries.redirected {values : FormValues} {request : HttpRequest}
    {status : Nat} {redirected : String → HttpRequest} (h : request.Carries values)
    (goes : request.redirected? status = some redirected) (target : String) :
    (redirected target).Carries values := by
  have away : ({ request with target } : HttpRequest).Carries values := by
    cases h with
    | post => exact .post target
    | reading => exact .reading target
  unfold redirected? at goes
  dsimp only at goes
  split at goes
  · exact Option.some.inj goes ▸ away
  split at goes
  · exact Option.some.inj goes ▸ .reading target
  split at goes
  · split at goes
    · exact Option.some.inj goes ▸ .reading target
    · exact Option.some.inj goes ▸ away
  · cases goes

/-- A request that follows a reply carries what the one before it did, or nothing. -/
theorem Client.carries_of_next? {c : Client} {origin : Origin} {request : HttpRequest}
    {reply : HttpReply} {next : Origin × HttpRequest} {values : FormValues}
    (h : c.next? origin request reply = some (some next)) (carries : request.Carries values) :
    next.2.Carries values := by
  obtain ⟨location, redirected, -, hredirected, hnext⟩ := exists_of_next? h
  obtain ⟨target, htarget⟩ := hnext next rfl
  exact htarget ▸ carries.redirected hredirected target

section Pursuit

variable {m : Type → Type} [Monad m] {c : Client}
  {goOn : Origin → HttpRequest → m (Option HttpReply)} {origin : Origin} {request : HttpRequest}
  {reply : HttpReply}

theorem Client.pursue_of_last (h : c.next? origin request reply = none) :
    c.pursue goOn origin request (some reply) = pure (some reply) := by
  simp only [pursue, h]

theorem Client.pursue_of_stranded (h : c.next? origin request reply = some none) :
    c.pursue goOn origin request (some reply) = pure none := by
  simp only [pursue, h]

theorem Client.pursue_of_next {next : Origin × HttpRequest}
    (h : c.next? origin request reply = some (some next)) :
    c.pursue goOn origin request (some reply) = goOn next.1 next.2 := by
  simp only [pursue, h]

end Pursuit

namespace Network

variable {net : Network} {n : Nat} {before asked : Asked} {p : Origin × HttpRequest}
  {came : Option HttpReply}

/-! ## 2. One request after the other -/

/-- The requests that a client makes, beginning with `p`, on a network that has been asked `before`,
and the final reply. At most `n` requests follow the first one. -/
inductive Trail (net : Network) :
    Nat → Asked → Origin × HttpRequest → Asked → Option HttpReply → Prop where
  | unreached {n : Nat} {before : Asked} {p : Origin × HttpRequest}
      (silent : net.reply? before p.1 p.2 = none) : Trail net n before p [p] none
  | final {n : Nat} {before : Asked} {p : Origin × HttpRequest} {reply : HttpReply}
      (replies : net.reply? before p.1 p.2 = some reply) (last : net.next? p.1 p.2 reply = none) :
      Trail net n before p [p] (some reply)
  | stranded {n : Nat} {before : Asked} {p : Origin × HttpRequest} {reply : HttpReply}
      (replies : net.reply? before p.1 p.2 = some reply)
      (stuck : net.next? p.1 p.2 reply = some none) : Trail net n before p [p] none
  | exhausted {before : Asked} {p next : Origin × HttpRequest} {reply : HttpReply}
      (replies : net.reply? before p.1 p.2 = some reply)
      (goes : net.next? p.1 p.2 reply = some (some next)) : Trail net 0 before p [p] none
  | further {n : Nat} {before asked : Asked} {p next : Origin × HttpRequest} {reply : HttpReply}
      {came : Option HttpReply} (replies : net.reply? before p.1 p.2 = some reply)
      (goes : net.next? p.1 p.2 reply = some (some next))
      (rest : Trail net n (before ++ [p]) next asked came) :
      Trail net (n + 1) before p (p :: asked) came

/-- The network keeps a request before the client looks at the reply. -/
theorem run_send (net : Network) (goOn : Origin → HttpRequest → StateM Asked (Option HttpReply))
    (before : Asked) (p : Origin × HttpRequest) :
    StateT.run (m := Id) (net.send p.1 p.2 >>= net.pursue goOn p.1 p.2) before =
      (net.pursue goOn p.1 p.2 (net.reply? before p.1 p.2)).run (before ++ [p]) := rfl

/-- The first request of a trail. The client may go on after it, by `goOn`. -/
theorem trail_send (goOn : Origin → HttpRequest → StateM Asked (Option HttpReply))
    (onward : ∀ reply next, net.reply? before p.1 p.2 = some reply →
      net.next? p.1 p.2 reply = some (some next) →
        ∃ asked came, (goOn next.1 next.2).run (before ++ [p]) = (came, before ++ asked) ∧
          Trail net n before p asked came) :
    ∃ asked came, StateT.run (m := Id) (net.send p.1 p.2 >>= net.pursue goOn p.1 p.2) before =
      (came, before ++ asked) ∧ Trail net n before p asked came := by
  rw [run_send]
  cases replies : net.reply? before p.1 p.2 with
  | none => exact ⟨[p], none, rfl, .unreached replies⟩
  | some reply =>
    cases hnext : net.next? p.1 p.2 reply with
    | none =>
      rw [Client.pursue_of_last hnext]
      exact ⟨[p], some reply, rfl, .final replies hnext⟩
    | some place =>
      cases place with
      | none =>
        rw [Client.pursue_of_stranded hnext]
        exact ⟨[p], none, rfl, .stranded replies hnext⟩
      | some next =>
        rw [Client.pursue_of_next hnext]
        exact onward reply next replies hnext

/-- **The requests of a client are a trail**, and the network keeps each of them. The induction is
on the number of requests that are left. -/
theorem trail_ask (net : Network) (n : Nat) (before : Asked) (p : Origin × HttpRequest) :
    ∃ asked came, (net.ask net.send n p.1 p.2).run before = (came, before ++ asked) ∧
      Trail net n before p asked came := by
  induction n generalizing before p with
  | zero =>
    exact trail_send _ fun reply next replies goes =>
      ⟨[p], none, rfl, .exhausted replies goes⟩
  | succ n ih =>
    refine trail_send _ fun reply next replies goes => ?_
    obtain ⟨asked, came, hrun, trail⟩ := ih (before ++ [p]) next
    rw [List.append_assoc] at hrun
    exact ⟨p :: asked, came, hrun, .further replies goes trail⟩

/-! ## 3. What a trail tells -/

/-- The first request stands in front, and there are at most `n` more. -/
theorem Trail.exists_cons (h : Trail net n before p asked came) :
    ∃ more, asked = p :: more ∧ more.length ≤ n := by
  induction h with
  | unreached => exact ⟨[], rfl, Nat.zero_le _⟩
  | final => exact ⟨[], rfl, Nat.zero_le _⟩
  | stranded => exact ⟨[], rfl, Nat.zero_le _⟩
  | exhausted => exact ⟨[], rfl, Nat.zero_le _⟩
  | further replies goes rest ih =>
    obtain ⟨more, rfl, hlength⟩ := ih
    exact ⟨_, rfl, Nat.succ_le_succ hlength⟩

/-- **A further request goes where the reply to the one before it points.** -/
theorem Trail.goes (h : Trail net n before p asked came) {front back : Asked}
    {q r : Origin × HttpRequest} (split : asked = front ++ q :: r :: back) :
    ∃ reply, net.reply? (before ++ front) q.1 q.2 = some reply ∧
      net.next? q.1 q.2 reply = some (some r) := by
  induction h generalizing front with
  | unreached => exact absurd split List.singleton_ne_append_cons_cons
  | final => exact absurd split List.singleton_ne_append_cons_cons
  | stranded => exact absurd split List.singleton_ne_append_cons_cons
  | exhausted => exact absurd split List.singleton_ne_append_cons_cons
  | @further n before asked p next reply came replies goes rest ih =>
    rcases List.cons_eq_append_iff.mp split with ⟨rfl, hcons⟩ | ⟨front', rfl, htail⟩
    · obtain ⟨rfl, htail⟩ := List.cons.inj hcons
      obtain ⟨more, hmore, -⟩ := rest.exists_cons
      obtain ⟨rfl, -⟩ := List.cons.inj (htail.trans hmore)
      rw [List.append_nil]
      exact ⟨reply, replies, goes⟩
    · rw [List.append_cons]
      exact ih htail

/-- **Every request carries what the first one does**, or nothing. -/
theorem Trail.carries (h : Trail net n before p asked came) {values : FormValues}
    (first : p.2.Carries values) : ∀ q ∈ asked, q.2.Carries values := by
  induction h with
  | unreached => exact List.forall_mem_singleton.mpr first
  | final => exact List.forall_mem_singleton.mpr first
  | stranded => exact List.forall_mem_singleton.mpr first
  | exhausted => exact List.forall_mem_singleton.mpr first
  | further replies goes rest ih =>
    exact List.forall_mem_cons.mpr ⟨first, ih (Client.carries_of_next? goes first)⟩

/-- **The client comes back with the reply to the last request**, if that is final. -/
theorem Trail.came_iff (h : Trail net n before p asked came) (reply : HttpReply) :
    came = some reply ↔ ∃ front q, asked = front ++ [q] ∧
      net.reply? (before ++ front) q.1 q.2 = some reply ∧ net.next? q.1 q.2 reply = none := by
  have single {p : Origin × HttpRequest} {before : Asked} :
      (∃ front q, [p] = front ++ [q] ∧ net.reply? (before ++ front) q.1 q.2 = some reply ∧
        net.next? q.1 q.2 reply = none) ↔
          net.reply? before p.1 p.2 = some reply ∧ net.next? p.1 p.2 reply = none := by
    constructor
    · rintro ⟨front, q, hsplit, hq⟩
      obtain ⟨rfl, hlast⟩ := List.append_inj' ((List.nil_append [p]).trans hsplit) rfl
      obtain rfl := List.singleton_inj.mp hlast
      rwa [List.append_nil] at hq
    · exact fun hp => ⟨[], p, rfl, by rwa [List.append_nil]⟩
  -- a reply after which the client does not stop is not final
  have moving {p : Origin × HttpRequest} {before : Asked} {reply' : HttpReply}
      {place : Option (Origin × HttpRequest)} (replies : net.reply? before p.1 p.2 = some reply')
      (goes : net.next? p.1 p.2 reply' = some place) :
      ¬ (net.reply? before p.1 p.2 = some reply ∧ net.next? p.1 p.2 reply = none) := by
    rintro ⟨replied, last⟩
    obtain rfl := Option.some.inj (replies.symm.trans replied)
    cases last.symm.trans goes
  induction h with
  | unreached silent => rw [single, silent]; simp
  | final replies last =>
    rw [single, replies]
    exact ⟨fun e => ⟨e, Option.some.inj e ▸ last⟩, fun e => e.1⟩
  | stranded replies stuck => exact (iff_of_false nofun (moving replies stuck)).trans single.symm
  | exhausted replies goes => exact (iff_of_false nofun (moving replies goes)).trans single.symm
  | @further n before asked p next _ came replies goes rest ih =>
    refine ih.trans ?_
    constructor
    · rintro ⟨front, q, rfl, hq⟩
      exact ⟨p :: front, q, rfl, by rwa [List.append_cons]⟩
    · rintro ⟨front, q, hsplit, hq⟩
      obtain ⟨more, rfl, -⟩ := rest.exists_cons
      rcases List.cons_eq_append_iff.mp hsplit with ⟨rfl, hcons⟩ | ⟨front', rfl, htail⟩
      · cases hcons
      · exact ⟨front', q, htail, by rwa [List.append_cons] at hq⟩

/-! ## 4. Posts -/

/-- The post that carries values to an address. -/
def postTo (a : Address) (values : FormValues) : Origin × HttpRequest :=
  (a.origin, ⟨"POST", a.target, some "application/json", values.toText⟩)

/-- What is asked when values are posted to a URL, and the reply that comes of it. -/
structure Posted (net : Network) (url : String) (values : FormValues) (asked : Asked)
    (came : Option HttpReply) : Prop where
  /-- Nothing is asked if the URL is no address. -/
  unusable : Address.parse? net.toAscii? url = none → asked = []
  /-- Otherwise the first request is the post. -/
  first : ∀ a, Address.parse? net.toAscii? url = some a → asked.head? = some (postTo a values)
  /-- A further request follows only a reply that points elsewhere, and goes there. -/
  further : ∀ front p q back, asked = front ++ p :: q :: back →
    ∃ reply, net.reply? front p.1 p.2 = some reply ∧ reply.Redirects ∧
      net.next? p.1 p.2 reply = some (some q)
  limit : asked.length ≤ 11
  /-- Every request posts the values, or is a plain reading. -/
  carries : ∀ p ∈ asked, p.2.Carries values
  /-- The reply to the last request comes of it, if it is final. -/
  final : ∀ reply, came = some reply ↔ ∃ front p, asked = front ++ [p] ∧
    net.reply? front p.1 p.2 = some reply ∧ net.next? p.1 p.2 reply = none

/-- The answer is that to the final reply. -/
theorem exchange_eq (net : Network) (url : String) (values : FormValues) :
    net.exchange url values =
      (Answer.ofReply? (net.fetch url values).1, (net.fetch url values).2) := rfl

theorem fetch_of_unusable {url : String} (h : Address.parse? net.toAscii? url = none)
    (values : FormValues) : net.fetch url values = (none, []) := by
  rw [fetch, Client.fetch, HttpRequest.post?, h]
  rfl

theorem fetch_of_address {url : String} {a : Address}
    (h : Address.parse? net.toAscii? url = some a) (values : FormValues) :
    net.fetch url values = (net.ask net.send Client.redirectLimit (postTo a values).1
      (postTo a values).2).run [] := by
  rw [fetch, Client.fetch, HttpRequest.post?, h]
  rfl

/-- **Values that are posted to a URL are posted there once**, and any further request follows a
reply that points elsewhere. -/
theorem posted_fetch (net : Network) (url : String) (values : FormValues) :
    Posted net url values (net.fetch url values).2 (net.fetch url values).1 := by
  cases hparse : Address.parse? net.toAscii? url with
  | none =>
    rw [fetch_of_unusable hparse]
    refine ⟨fun _ => rfl, fun a h => ?_, fun front p q back hsplit => ?_, Nat.zero_le _, nofun,
      fun reply => iff_of_false nofun ?_⟩
    · cases hparse.symm.trans h
    · cases front <;> cases hsplit
    · rintro ⟨front, p, hsplit, -⟩
      cases front <;> cases hsplit
  | some a =>
    obtain ⟨asked, came, hrun, trail⟩ := trail_ask net Client.redirectLimit [] (postTo a values)
    obtain ⟨more, hmore, hlength⟩ := trail.exists_cons
    rw [fetch_of_address hparse, hrun, List.nil_append]
    refine ⟨fun h => ?_, fun a' h => ?_, fun front p q back hsplit => ?_, ?_,
      trail.carries (.post a.target), trail.came_iff⟩
    · cases hparse.symm.trans h
    · obtain rfl := Option.some.inj (hparse.symm.trans h)
      rw [hmore]
      rfl
    · obtain ⟨reply, replies, goes⟩ := trail.goes hsplit
      exact ⟨reply, replies, Client.redirects_of_next? goes, goes⟩
    · rw [hmore]
      exact Nat.succ_le_succ hlength

/-- Without a reply that points elsewhere the post is all that is asked. -/
theorem Posted.once {url : String} {values : FormValues} (h : Posted net url values asked came)
    (direct : ∀ a reply, Address.parse? net.toAscii? url = some a →
      net.reply? [] (postTo a values).1 (postTo a values).2 = some reply → ¬ reply.Redirects) :
    asked = (Address.parse? net.toAscii? url).toList.map (postTo · values) := by
  cases hparse : Address.parse? net.toAscii? url with
  | none => exact h.unusable hparse
  | some a =>
    obtain ⟨more, rfl⟩ := List.head?_eq_some_iff.mp (h.first a hparse)
    cases more with
    | nil => rfl
    | cons q back =>
      obtain ⟨reply, replies, redirects, -⟩ := h.further [] (postTo a values) q back rfl
      exact absurd redirects (direct a reply hparse replies)

end Network

end TemplateClient
