import PackageVitals.Proofs.Opening

/-!
# The sign of a scope

A scope of npm starts with an at sign, which an identity may write or leave
out. The registry of npm is asked about the same package in both cases
(`Npm.packageName_sign`). deps.dev is asked about a package by its
coordinates, and they have the sign only if the scope is written with it,
so it is asked about two different packages. The two identities look alike
only where deps.dev is not asked at all (`Settings.sameSignals_of_sign`).
-/

namespace PackageVitals

/-- A package of npm in a scope. -/
def Identity.inScope (scope name : String) (version : Option String) : Identity :=
  ⟨"npm", name, some scope, version⟩

section Sign

variable {scope name : String} {version : Option String}

open Identity (inScope)

theorem coordinates_inScope (hscope : scope ≠ "") :
    (inScope scope name version).coordinates = scope ++ "/" ++ name := by
  have hnonempty : Identity.nonempty? (inScope scope name version).scope = some scope := by
    simp [Identity.nonempty?, inScope, Option.filter, hscope]
  have hseparator : (inScope scope name version).separator = "/" := rfl
  unfold Identity.coordinates
  rw [hnonempty, hseparator]
  rfl

theorem sign_ne_empty (scope : String) : "@" ++ scope ≠ "" := by
  intro h
  have := congrArg String.toList h
  rw [String.toList_append] at this
  exact absurd this (List.cons_ne_nil _ _)

/-- With the sign the coordinates start with it. -/
theorem coordinates_sign (hscope : scope ≠ "") :
    (inScope ("@" ++ scope) name version).coordinates =
      "@" ++ (inScope scope name version).coordinates := by
  rw [coordinates_inScope (sign_ne_empty scope), coordinates_inScope hscope, String.append_assoc,
    String.append_assoc, String.append_assoc]

/-- **The registry of npm knows a package by one name**, with the sign of its
scope written or not. -/
theorem Npm.packageName_sign (hscope : scope ≠ "") (hsign : ¬ ['@'].isPrefixOf scope.toList) :
    packageName (inScope scope name version) = packageName (inScope ("@" ++ scope) name version) := by
  have hsigned : ['@'].isPrefixOf ("@" ++ scope).toList = true := by
    rw [String.toList_append]
    simp
  have hplain : ['@'].isPrefixOf scope.toList = false := Bool.eq_false_iff.mpr hsign
  have hnonempty : Identity.nonempty? (some scope) = some scope := by
    simp [Identity.nonempty?, Option.filter, hscope]
  have hnonempty' : Identity.nonempty? (some ("@" ++ scope)) = some ("@" ++ scope) := by
    simp [Identity.nonempty?, Option.filter]
  unfold packageName
  rw [show (inScope scope name version).scope = some scope from rfl,
    show (inScope ("@" ++ scope) name version).scope = some ("@" ++ scope) from rfl, hnonempty,
    hnonempty']
  dsimp only
  rw [hplain, hsigned, coordinates_sign hscope]
  rfl

/-- The sign is encoded in three characters before all others. -/
theorem encode_sign (text : String) :
    (Url.encodeSegment ("@" ++ text)).toList = "%40".toList ++ (Url.encodeSegment text).toList := by
  rw [Url.encodeSegment_append, show (Url.encodeSegment "@").toList = "%40".toList by decide]

theorem Url.ofString?_of_length {s : String} (h : lengthLimit < s.length) : ofString? s = none := by
  unfold ofString? read?
  rw [if_pos (by simp [String.length_toList, h])]
  rfl

theorem Service.address_of_length {s : Service} {url : String} (h : Url.lengthLimit < url.length) :
    s.address url none = .error .malformedUrl := by
  unfold address
  rw [Url.ofString?_of_length h]

namespace Settings

variable {s : Settings} {u₀ : Url}

/-- The name with the sign is too long to be asked for if the one without it
is. -/
theorem filedAlike_of_not_asks (hb : DepsDev.service.Base s.depsDev.root u₀) (hscope : scope ≠ "")
    {system : String} (h : ¬ DepsDev.service.Asks
      (s.depsDev.latestVersionUrl system (inScope scope name version).coordinates)) :
    DepsDev.FiledAlike s.depsDev (inScope scope name version) (inScope ("@" ++ scope) name version)
      system := by
  have hlong : Url.lengthLimit <
      (s.depsDev.latestVersionUrl system (inScope scope name version).coordinates).length := by
    by_contra hle
    exact h (hb.asks (DepsDev.Client.below_packageUrl _ _ _ (by decide)) (Nat.le_of_not_lt hle))
  refine .inr ⟨Service.address_of_length hlong, Service.address_of_length ?_⟩
  refine Nat.lt_of_lt_of_le hlong ?_
  rw [coordinates_sign hscope, ← String.length_toList, ← String.length_toList,
    DepsDev.Client.latestVersionUrl_toList, DepsDev.Client.latestVersionUrl_toList, encode_sign,
    List.length_append, List.length_append, List.length_cons, List.length_cons, List.length_append]
  omega

/-- Where deps.dev can be asked about the name without the sign, the two do not
look alike. -/
theorem not_sameSignals_of_asks (hb : DepsDev.service.Base s.depsDev.root u₀) (hscope : scope ≠ "")
    (hsign : ¬ ['@'].isPrefixOf scope.toList) {system : String}
    (hs : s.systems.systemFor "npm" = some system)
    (h : DepsDev.service.Asks
      (s.depsDev.latestVersionUrl system (inScope scope name version).coordinates)) :
    ¬ s.SameSignals (inScope scope name version) (inScope ("@" ++ scope) name version) := by
  intro hsame
  have hopenings := hsame.openings
  obtain ⟨u, hu, hopening⟩ := Service.opening_of_asks h
  have hsystems : s.depsDev.systems = s.systems := rfl
  have hfirst : s.depsDev.opening (inScope scope name version) = [DepsDev.service.request u] := by
    unfold DepsDev.Client.opening
    rw [hsystems, show (inScope scope name version).ecosystem = "npm" from rfl, hs]
    exact hopening
  have hnpm : npmOpening (inScope scope name version) =
      npmOpening (inScope ("@" ++ scope) name version) := by
    unfold npmOpening Npm.packageUrl
    rw [Npm.packageName_sign hscope hsign]
    rfl
  have hpypi (x : String) : pypiOpening (inScope x name version) = [] := rfl
  rw [hfirst, hnpm, hpypi, hpypi] at hopenings
  -- deps.dev is asked once about each of the two, and so for the same address.
  have hsecond : s.depsDev.opening (inScope ("@" ++ scope) name version) =
      [DepsDev.service.request u] := by
    have hlength := congrArg List.length hopenings
    simp only [List.length_append, List.length_cons, List.length_nil] at hlength
    obtain ⟨q, hq⟩ := List.length_eq_one_iff.mp
      (show (s.depsDev.opening (inScope ("@" ++ scope) name version)).length = 1 by omega)
    rw [hq] at hopenings ⊢
    rw [(List.cons.inj hopenings).1]
  unfold DepsDev.Client.opening at hsecond
  rw [hsystems, show (inScope ("@" ++ scope) name version).ecosystem = "npm" from rfl, hs,
    coordinates_sign hscope] at hsecond
  dsimp only at hsecond
  cases hu' : DepsDev.service.address
      (s.depsDev.latestVersionUrl system ("@" ++ (inScope scope name version).coordinates)) none with
  | error f =>
    rw [Service.opening_of_error hu'] at hsecond
    cases hsecond
  | ok u' =>
    unfold Service.opening at hsecond
    rw [hu'] at hsecond
    have hslash : '%' ∈ (Url.encodeSegment (inScope scope name version).coordinates).toList := by
      rw [coordinates_inScope hscope, Url.encodeSegment_append, Url.encodeSegment_append,
        show (Url.encodeSegment "/").toList = "%2F".toList by decide]
      simp
    refine DepsDev.Client.request_ne hb hu hu' hslash ?_ (fun he => ?_)
      (List.cons.inj hsecond).1.symm
    · rw [encode_sign]
      simp
    · have hlength := congrArg List.length (congrArg String.toList he)
      rw [encode_sign, List.length_append] at hlength
      simp at hlength

/-- **Two identities that write the sign of one scope or leave it out** are one
package to the registry of npm in every world, and look alike to an analysis
exactly if deps.dev is not asked about it: npm is filed under no system, or the
name is too long to be asked for. -/
theorem sameSignals_of_sign (s : Settings) (scope name : String) (version : Option String)
    (hscope : scope ≠ "") (hsign : ¬ ['@'].isPrefixOf scope.toList) :
    let plain := inScope scope name version
    let signed := inScope ("@" ++ scope) name version
    (∀ (root : String) (σ : Type) (w : World σ) (t : σ),
      let o := w.run (Npm.find root plain).attempt t
      let o' := w.run (Npm.find root signed).attempt t
      o.requests = o'.requests ∧ o.sleeps = o'.sleeps ∧ o.value = o'.value) ∧
    ∀ u₀, DepsDev.service.Base s.depsDev.root u₀ → (s.SameSignals plain signed ↔
      ∀ system, s.systems.systemFor "npm" = some system →
        ¬ DepsDev.service.Asks (s.depsDev.latestVersionUrl system plain.coordinates)) := by
  intro plain signed
  have hname : Npm.packageName plain = Npm.packageName signed := Npm.packageName_sign hscope hsign
  refine ⟨fun root σ w t => ?_, fun u₀ hb => ⟨fun hsame system hs hasks => ?_, fun h => ?_⟩⟩
  · have halike : Action.Alike .ofRequests Eq (Npm.find root plain) (Npm.find root signed) := by
      refine Npm.alike_find (fun _ => trivial) (fun _ _ _ _ _ => rfl)
        ⟨rfl, fun _ _ _ => trivial⟩ ?_
      unfold Npm.packageUrl
      rw [hname]
    obtain ⟨hrequests, hsleeps, hvalue⟩ := w.run_of_alike halike t
    exact ⟨hrequests, hsleeps, hvalue.eq⟩
  · exact not_sameSignals_of_asks hb hscope hsign hs hasks hsame
  · have hlikens : s.Likens plain signed :=
      ⟨rfl, fun system hs => filedAlike_of_not_asks hb hscope (h system hs), rfl, fun _ => hname,
        rfl, fun _ => rfl⟩
    exact hlikens.sameSignals rfl

/-- The core of Babel does not look alike with and without the sign, unless npm
is filed under no system. -/
theorem sameSignals_of_sign_babel :
    "babel" ≠ "" ∧ ¬ ['@'].isPrefixOf "babel".toList ∧
      ¬ ({} : Settings).SameSignals (inScope "babel" "core" none)
        (inScope ("@" ++ "babel") "core" none) ∧
      ({ systems := [] } : Settings).SameSignals (inScope "babel" "core" none)
        (inScope ("@" ++ "babel") "core" none) := by
  have hsign : ¬ ['@'].isPrefixOf "babel".toList := by decide
  refine ⟨by decide, hsign, fun hsame => ?_, ?_⟩
  · obtain ⟨u, hb⟩ := base_depsDev (s := {}) rfl
    refine ((sameSignals_of_sign {} "babel" "core" none (by decide) hsign).2 u hb).mp hsame "NPM"
      (by decide +kernel) ?_
    exact hb.asks (DepsDev.Client.below_packageUrl _ _ _ (by decide)) (by decide +kernel)
  · obtain ⟨u, hb⟩ := base_depsDev (s := { systems := [] }) rfl
    exact ((sameSignals_of_sign _ "babel" "core" none (by decide) hsign).2 u hb).mpr nofun

end Settings

end Sign

end PackageVitals
