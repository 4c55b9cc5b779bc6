import SignOnGate.Proofs.Query
import SignOnGate.Proofs.Url.Absolute
import SignOnGate.Redirect
import SignOnGate.ServiceUrl

/-!
# Service URLs that stay the same

The service URL of a plain request URL is its own service URL, and so is its `https` form. The
service URL of any request URL is an absolute URL again, unless the authority ends in a blank that
is stripped off. A login redirect fails only by its service URL when the login URL was parsed
before.
-/

namespace SignOnGate

namespace Url

open Text

/-- The parts of a URL without its fragment and without the fields of a name. -/
def withoutField (url : Url) (name : Text) : Url :=
  { url with query := Query.without name url.query, fragment := [] }

/-- Complete parts whose query has no field of a name, and no empty field. -/
structure Settled (name : Text) (url : Url) : Prop extends Complete url where
  without_query : Query.without name url.query = url.query

variable {url : Url} {name : Text}

/-- Leaving out the fields of a name settles a URL for that name. -/
theorem Complete.withoutField (complete : url.Complete) (name : Text) :
    (url.withoutField name).Settled name := by
  refine ⟨⟨⟨complete.scheme, complete.scheme_small, complete.authority_ne_nil, complete.authority,
    complete.path_start, complete.path_noQuery, complete.path_noFragment, ?_, complete.path_solid,
    ?_⟩, complete.hostname, complete.port⟩, Query.without_without name url.query⟩
  · intro member
    rcases Query.mem_without member with same | inQuery
    · cases same
    · exact complete.query_noFragment inQuery
  · intro char member
    rcases Query.mem_without member with rfl | inQuery
    · decide
    · exact complete.query_solid char inQuery

/-- Leaving out the fields of a name keeps a URL sound. -/
theorem Sound.withoutField (sound : url.Sound) (name : Text) : (url.withoutField name).Sound := by
  refine ⟨sound.scheme, sound.scheme_small, sound.authority_ne_nil, sound.authority_inside,
    sound.authority_quiet, sound.brackets, sound.noHidden, sound.path_start, sound.path_noQuery,
    sound.path_noFragment, sound.path_quiet, ?_, ?_⟩
  · intro member
    rcases Query.mem_without member with same | inQuery
    · cases same
    · exact sound.query_noFragment inQuery
  · intro char member
    rcases Query.mem_without member with rfl | inQuery
    · decide
    · exact sound.query_quiet char inQuery

end Url

namespace ServiceUrl

variable {text : Text} {url : Url}

theorem ofText_of_parse {absolute : Url.Absolute} (parsed : Url.Absolute.parse text = .ok absolute)
    (artifact : Text) :
    ofText text artifact none = .ok (absolute.url.withoutField artifact).written := by
  rw [ofText, parsed]
  rfl

/-- Only an authority that ends in a blank, with nothing behind it, can spoil a service URL. -/
theorem ends_of_rejected {absolute : Url.Absolute} (parsed : Url.Absolute.parse text = .ok absolute)
    {artifact : Text} {rejection : Url.Rejection}
    (rejected : Url.Absolute.parse (ofUrl absolute.url artifact none) = .error rejection) :
    absolute.url.path = [] ∧ Query.without artifact absolute.url.query = [] ∧
      ∃ char ∈ absolute.url.authority.getLast?, Text.isBlank char = true := by
  have sound := (absolute.sound (Url.Absolute.parse_eq_ok parsed).2).withoutField artifact
  have spoiled : ¬(absolute.url.path ++ Url.marked '?' (Query.without artifact absolute.url.query) =
      [] → ∀ char ∈ absolute.url.authority.getLast?, Text.isBlank char = false) := by
    intro ends
    rcases sound.exists_parse_written absolute.hostname?_eq absolute.port?_eq ends with
      ⟨again, parsedAgain, -⟩
    have sameText :
        ofUrl absolute.url artifact none = (absolute.url.withoutField artifact).written :=
      rfl
    rw [sameText, parsedAgain] at rejected
    cases rejected
  push Not at spoiled
  rcases spoiled with ⟨nothingBehind, char, isLast, blank⟩
  rw [List.append_eq_nil_iff] at nothingBehind
  refine ⟨nothingBehind.1, ?_, char, isLast, by simpa using blank⟩
  simpa [Url.marked] using nothingBehind.2

/-- A settled URL is its own service URL. -/
theorem ofText_written {artifact : Text} (settled : url.Settled artifact) :
    ofText url.written artifact none = .ok url.written := by
  rcases settled.parse_written with ⟨absolute, parsed, url_eq⟩
  rw [ofText_of_parse parsed, url_eq, Url.withoutField, Url.written, settled.without_query]
  rfl

/-- The `https` form of a settled URL is settled, and has no other `https` form. -/
theorem upgradeToHttps_written {artifact : Text} (settled : url.Settled artifact) :
    ∃ upgraded : Url, upgradeToHttps url.written = .ok upgraded.written ∧
      upgraded.Settled artifact ∧ upgradeToHttps upgraded.written = .ok upgraded.written ∧
      upgraded.query = url.query := by
  rcases settled.upgradeToHttps_written with
    ⟨upgraded, upgrade, complete, query_eq, notHttp, -⟩
  rcases complete.upgradeToHttps_written with ⟨again, upgradeAgain, -, -, -, same⟩
  rw [same notHttp] at upgradeAgain
  refine ⟨upgraded, upgrade, ⟨complete, ?_⟩, upgradeAgain, query_eq⟩
  rw [query_eq]
  exact settled.without_query

end ServiceUrl

/-! ## Redirects -/

/-- What a login URL is parsed from: an absolute URL whose host has two parts. -/
theorem LoginUrl.parse_eq_ok {text : Text} {login : LoginUrl} (parsed : parse text = .ok login) :
    ∃ absolute, Url.Absolute.parse text = .ok absolute ∧
      login.firstPart = Text.beforeLast '.' absolute.host ∧
      login.lastPart = Text.afterLast '.' absolute.host ∧ login.fullUrl = Text.strip text := by
  simp only [LoginUrl.parse] at parsed
  split at parsed
  · cases parsed
  · split at parsed
    · cases parsed
    · rename_i absolute absolute_eq
      split at parsed
      · cases parsed
      · cases parsed
        exact ⟨absolute, absolute_eq, rfl, rfl, rfl⟩

theorem LoginUrl.parse_fullUrl {text : Text} {login : LoginUrl} (parsed : parse text = .ok login) :
    ∃ absolute, Url.Absolute.parse login.fullUrl = .ok absolute := by
  rcases parse_eq_ok parsed with ⟨absolute, absolute_eq, -, -, fullUrl_eq⟩
  rw [fullUrl_eq]
  exact ⟨absolute, Url.Absolute.parse_strip absolute_eq⟩

theorem LoginRedirect.loginFor_ne_error {text : Text} {login : LoginUrl}
    (parsed : LoginUrl.parse text = .ok login) (serviceHost : Text) :
    ∃ loginUrl, loginFor login serviceHost = .ok loginUrl := by
  rcases LoginUrl.parse_fullUrl parsed with ⟨absolute, absolute_eq⟩
  rw [loginFor]
  split
  · exact ⟨_, rfl⟩
  · rw [absolute_eq]
    exact ⟨_, rfl⟩

theorem upgradeToHttps_of_parse {text : Text} {absolute : Url.Absolute}
    (parsed : Url.Absolute.parse text = .ok absolute) :
    ∃ upgraded, upgradeToHttps text = .ok upgraded := by
  rw [upgradeToHttps, parsed]
  simp only
  split <;> exact ⟨_, rfl⟩

/-- What a redirect is built from. -/
theorem LoginRedirect.build_eq_ok {login : LoginUrl} {parameter serviceUrl : Text}
    {flags : RedirectFlags} {redirect : LoginRedirect}
    (built : build login parameter serviceUrl flags = .ok redirect) :
    ∃ absolute, Url.Absolute.parse serviceUrl = .ok absolute ∧
      loginFor login absolute.host = .ok redirect.loginUrl ∧
      upgradeToHttps serviceUrl = .ok redirect.serviceUrl ∧
      redirect.redirectUrl =
        withService redirect.loginUrl parameter redirect.serviceUrl flags := by
  rw [build] at built
  split at built
  · cases built
  · rename_i absolute absolute_eq
    split at built
    · cases built
    · rename_i loginUrl login_eq
      split at built
      · cases built
      · rename_i upgraded upgrade_eq
        cases built
        exact ⟨absolute, absolute_eq, login_eq, upgrade_eq, rfl⟩

/-- A redirect fails exactly when its service URL is rejected, and by that rejection. -/
theorem LoginRedirect.build_eq_error_iff {text : Text} {login : LoginUrl}
    (parsed : LoginUrl.parse text = .ok login) (parameter serviceUrl : Text)
    (flags : RedirectFlags) (error : RedirectError) :
    build login parameter serviceUrl flags = .error error ↔
      ∃ rejection, Url.Absolute.parse serviceUrl = .error rejection ∧
        error = .service rejection := by
  cases absolute_eq : Url.Absolute.parse serviceUrl with
  | error rejection => simp [build, absolute_eq, eq_comm]
  | ok absolute =>
      rcases loginFor_ne_error parsed absolute.host with ⟨loginUrl, login_eq⟩
      rcases upgradeToHttps_of_parse absolute_eq with ⟨upgraded, upgrade_eq⟩
      simp [build, absolute_eq, login_eq, upgrade_eq]

/-- A redirect for complete parts can be built, and takes the client to their `https` form. -/
theorem LoginRedirect.exists_build {text : Text} {login : LoginUrl}
    (parsed : LoginUrl.parse text = .ok login) (parameter : Text) {url : Url}
    (complete : url.Complete) (flags : RedirectFlags) :
    ∃ redirect, build login parameter url.written flags = .ok redirect ∧
      upgradeToHttps url.written = .ok redirect.serviceUrl := by
  rcases complete.parse_written with ⟨absolute, absolute_eq, -⟩
  rcases complete.upgradeToHttps_written with ⟨upgraded, upgrade, -⟩
  rcases loginFor_ne_error parsed absolute.host with ⟨loginUrl, login_eq⟩
  rw [build, absolute_eq]
  simp only [login_eq, upgrade]
  exact ⟨_, rfl, rfl⟩

end SignOnGate
