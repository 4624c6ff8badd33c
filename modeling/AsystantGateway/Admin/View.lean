import AsystantGateway.Admin.Policy
import AsystantGateway.Library.Html

/-!
# The pages of the administration

A page is one text, with what the configuration holds written into its markup.
The markup of a page is a function of the shape of the configuration alone, and
what the configuration keeps from the panel is not in the page at all.
-/

namespace AsystantGateway

open Html

/-- The name of a provider as its variant is named. -/
def Provider.variantName : Provider → String
  | .openrouter => "Openrouter"
  | .openai => "Openai"
  | .gemini => "Gemini"
  | .anthropic => "Anthropic"
  | .opencodeZen => "OpencodeZen"
  | .opencodeGo => "OpencodeGo"

namespace View

def page (content : String) : String :=
  "<!doctype html><html lang=\"en\"><head><meta charset=\"utf-8\"><meta " ++
    "name=\"viewport\" content=\"width=device-width,initial-scale=1\">" ++
    "<title>Asystant · Administration</title><link rel=\"stylesheet\" " ++
    "href=\"/admin/style.css\"></head><body><main><header><span " ++
    "class=\"brand\">asystant<span class=\"accent\">·</span>ai</span><span " ++
    "class=\"badge\">Gateway administration</span></header>" ++ content ++
  "</main></body></html>"

def hidden (name value : String) : String :=
  "<input type=\"hidden\" name=\"" ++ name ++ "\" value=\"" ++
    escape value ++ "\">"

def number
    (name label : String)
    (value : Int)
    (min max : Nat) : String :=
  "<label>" ++ label ++ "<input required type=\"number\" name=\"" ++ name ++
    "\" value=\"" ++ toString value ++ "\" min=\"" ++ min.repr ++
    "\" max=\"" ++ max.repr ++ "\" step=\"1\"></label>"

/-- One choice of a model. -/
def modelOption (selected id : String) : String :=
  "<option value=\"" ++ escape id ++ "\" " ++
    (if id = selected then "selected" else "") ++ ">" ++ escape id ++
    "</option>"

def models (ids : List String) (selected : String) : String :=
  let options := String.join (ids.map (modelOption selected))
  "<label>Assigned model<select name=\"model\">" ++ options ++
    "</select></label>"

def login (csrf : String) : String :=
  page ("<section class=\"intro\"><p class=\"eyebrow\">CONTROL CENTER</p>" ++
    "<h1>Welcome back.</h1><p>Manage model assignments and spending " ++
    "policies for your embedded assistants.</p></section><section " ++
    "class=\"card login\"><h2>Administrator sign in</h2><p>Use the " ++
    "dedicated ASYSTANT_ADMIN_TOKEN configured on this gateway.</p><form " ++
    "method=\"post\" action=\"/admin/login\">" ++ hidden "csrf" csrf ++
    "<label>Admin token<input type=\"password\" name=\"token\" required " ++
    "minlength=\"32\" maxlength=\"1024\" autocomplete=\"current-password\">" ++
    "</label><button>Sign in securely</button></form><small>Your session " ++
    "expires after one hour.</small></section>")

def introduction (csrf : String) : String :=
  "<section class=\"intro\"><div><p class=\"eyebrow\">POLICY WORKSPACE</p>" ++
    "<h1>Your assistants, configured.</h1><p>Choose a model per product or " ++
    "customer. Credentials stay on the server.</p></div><form " ++
    "method=\"post\" action=\"/admin/logout\">" ++ hidden "csrf" csrf ++
  "<button class=\"secondary\">Sign out</button></form></section><aside>" ++
    "Changes apply to new assistant registrations and are rechecked before " ++
    "every inference. Reopen or reconnect the assistant after changing its " ++
    "assigned model. Daily budgets are USD microdollars: 1,000,000 = " ++
    "$1.</aside><h2>Products &amp; customers</h2><div class=\"grid\">"

/-- The fields that the forms of a product share. -/
def common (csrf issuer : String) : String :=
  hidden "csrf" csrf ++ hidden "issuer" issuer

/-- The forms for the policies of a product and of its customers. -/
def productForms
    (config : Config)
    (csrf : String)
    (product : Product) : String :=
  let default :=
    (product.defaultModel.or product.models.head?).getD ""
  let availableModels := config.models.map ModelConfig.id
  "\n<section class=\"card\">\n  <p class=\"eyebrow\">PRODUCT</p>\n  <h3>" ++
    escape product.issuer ++
  "</h3>\n  <form method=\"post\" action=\"/admin/policy\">\n    " ++
    common csrf product.issuer ++ hidden "kind" "product" ++
    models availableModels default ++
  "\n    <div class=\"fields\">" ++
    number "daily_tenant_micros" "Daily tenant budget (µUSD)"
      product.dailyTenantMicros.toInt 1 1000000000000 ++
    number "daily_user_micros" "Daily user budget (µUSD)"
      product.dailyUserMicros.toInt 1 1000000000000 ++
  "</div>\n    <button>Save product policy</button>\n  </form>\n  " ++
    "<details>\n    <summary>Assign a customer model &amp; budget" ++
    "</summary>\n    <p>Enter the exact company / tenant ID sent by the " ++
    "product login.</p>\n    <form method=\"post\" " ++
    "action=\"/admin/policy\">\n      " ++ common csrf product.issuer ++
    hidden "kind" "client" ++
  "\n      <label>Tenant ID<input name=\"tenant\" required " ++
    "maxlength=\"200\" placeholder=\"Company UUID\"></label>\n      " ++
    models product.models default ++
    number "daily_tenant_micros" "Daily tenant budget (µUSD)"
      product.dailyTenantMicros.toInt 0 1000000000000 ++
  "\n      <button>Save customer assignment</button>\n    </form>\n  " ++
    "</details>\n"

/-- One customer's assignment. -/
def assignment (client : ClientModels) : String :=
  "<div class=\"assignment\"><strong>" ++ escape client.tenant ++
    "</strong><span>" ++ escape client.defaultModel ++ "</span><small>" ++
    (if client.subject.isSome then "User-specific assignment"
      else "Customer assignment") ++
    "</small></div>"

/-- The form that removes a customer's assignment. -/
def restoreForm (csrf issuer : String) : String :=
  "\n<details>\n<summary>Restore customer defaults</summary>\n<form " ++
    "method=\"post\" action=\"/admin/policy\">" ++ common csrf issuer ++
    hidden "kind" "inherit" ++
  "<label>Tenant ID<input name=\"tenant\" required maxlength=\"200\">\n" ++
    "</label>\n<button class=\"secondary\">Remove customer override" ++
    "</button>\n</form>\n</details>\n"

/-- The form that tests the default model of a product. -/
def testForm (csrf issuer : String) : String :=
  "\n<details>\n<summary>Test the assigned default model</summary>\n" ++
    "<p>Sends a fixed greeting through the real provider and budget " ++
    "pipeline. Uses the __admin_playground__ tenant and consumes tokens." ++
    "</p>\n<form method=\"post\" action=\"/admin/test\">" ++
    common csrf issuer ++
  "<button>Run paid connection test</button>\n</form>\n</details>\n"

def productCard
    (config : Config)
    (csrf : String)
    (product : Product) : String :=
  productForms config csrf product ++
    String.join (product.clientModels.map assignment) ++
    restoreForm csrf product.issuer ++ testForm csrf product.issuer ++
    "</section>"

def modelCard (csrf : String) (model : ModelConfig) : String :=
  "\n<section class=\"card\">\n<p class=\"eyebrow\">" ++
    model.provider.variantName ++ "</p>\n<h3>" ++ escape model.id ++
  "</h3>\n<form method=\"post\" action=\"/admin/policy\">" ++
    hidden "csrf" csrf ++ hidden "kind" "model" ++ hidden "model" model.id ++
  "<div class=\"fields\">" ++
    number "max_input_tokens" "Maximum input upper bound"
      model.maxInputTokens.toNat 1 1000000 ++
    number "max_output_tokens" "Maximum output tokens"
      model.maxOutputTokens.toNat 1 32768 ++
  "</div>\n<button>Save model limits</button>\n</form>\n</section>\n"

/-- The form that removes an origin. -/
def originForm (csrf origin : String) : String :=
  "<form class=\"assignment\" method=\"post\" action=\"/admin/policy\">" ++
    hidden "csrf" csrf ++ hidden "kind" "origin_remove" ++
    hidden "origin" origin ++ "<strong>" ++ escape origin ++
  "</strong><button class=\"secondary\">Remove</button></form>"

/-- The form that adds an origin. -/
def newOriginForm (csrf : String) : String :=
  "<form method=\"post\" action=\"/admin/policy\">" ++ hidden "csrf" csrf ++
    hidden "kind" "origin_add" ++
  "<label>New origin<input name=\"origin\" required maxlength=\"200\" " ++
    "placeholder=\"https://app.example.com\"></label><button>Add " ++
    "origin</button></form></section>"

def dashboard (config : Config) (csrf : String) : String :=
  page (introduction csrf ++
    String.join (config.products.map (productCard config csrf)) ++
  "</div><h2>Model limits</h2><aside>Input limits use a conservative " ++
    "byte-based upper bound, including tool schemas and protocol overhead; " ++
    "this is not the provider's exact token count. Raising limits also " ++
    "increases the reserved budget for every turn.</aside><div " ++
    "class=\"grid\">" ++
    String.join (config.models.map (modelCard csrf)) ++
  "</div><h2>Allowed origins</h2><aside>Websites and apps whose browsers " ++
    "may call this gateway, written as scheme and host, for example " ++
    "https://app.turnosqr.com. Changes apply at once. Plain http is only " ++
    "accepted for localhost.</aside><section class=\"card\">" ++
    (if config.origins = [] then
      "<p>No origins yet: browsers cannot call the gateway.</p>" else "") ++
    String.join (config.origins.map (originForm csrf)) ++
    newOriginForm csrf ++
  "<footer>SQLite stores operational policies. API keys and signing secrets " ++
    "remain in environment variables.</footer>")

def testResult (message : String) : String :=
  page ("<section class=\"intro\"><h1>Connection test</h1></section>" ++
    "<section class=\"card\"><pre>" ++ escape message ++
    "</pre><a href=\"/admin\">Back to administration</a></section>")

/-! ## The markup of a page -/

theorem markup_page
    {content otherContent : String}
    (same : markup content = markup otherContent) :
    markup (page content) = markup (page otherContent) := by
  unfold page
  simp only [markup_append, same]

theorem markup_hidden (name value otherValue : String) :
    markup (hidden name value) = markup (hidden name otherValue) := by
  unfold hidden
  simp only [markup_append, markup_escape]

theorem markup_number
    (name label : String)
    (value otherValue : Int)
    (min max : Nat) :
    markup (number name label value min max) =
      markup (number name label otherValue min max) := by
  unfold number
  simp only [markup_append, markup_toString]

theorem markup_modelOption (selected otherSelected id otherId : String) :
    markup (modelOption selected id) =
      markup (modelOption otherSelected otherId) := by
  have unmarked : ∀ chosen : Bool,
      markup (if chosen then "selected" else "") = [] := by
    intro chosen
    cases chosen <;> rfl
  have marked := unmarked (decide (id = selected))
  have otherMarked := unmarked (decide (otherId = otherSelected))
  simp only [decide_eq_true_eq] at marked otherMarked
  unfold modelOption
  simp only [markup_append, markup_escape, marked, otherMarked]

/-- Which model is selected, and what the models are called, is not in the
markup. -/
theorem markup_models
    {ids otherIds : List String}
    (sameLength : ids.length = otherIds.length)
    (selected otherSelected : String) :
    markup (models ids selected) = markup (models otherIds otherSelected) := by
  have options := markup_join_of_length sameLength
    (markup_modelOption selected otherSelected)
  unfold models
  simp only [markup_append, options]

theorem markup_common (csrf otherCsrf issuer otherIssuer : String) :
    markup (common csrf issuer) = markup (common otherCsrf otherIssuer) := by
  unfold common
  rw [markup_append, markup_append, markup_hidden "csrf" csrf otherCsrf,
    markup_hidden "issuer" issuer otherIssuer]

theorem markup_login (csrf otherCsrf : String) :
    markup (login csrf) = markup (login otherCsrf) := by
  apply markup_page
  simp only [markup_append, markup_hidden "csrf" csrf otherCsrf]

theorem markup_testResult (message otherMessage : String) :
    markup (testResult message) = markup (testResult otherMessage) := by
  apply markup_page
  simp only [markup_append, markup_escape]

end View

/-- Two products with as many models, and with as many entries for customers,
each for a user or for a tenant as the other. -/
structure Product.SameShape (product other : Product) : Prop where
  models : product.models.length = other.models.length
  clients : List.Forall₂
    (fun client otherClient : ClientModels =>
      client.subject.isSome = otherClient.subject.isSome)
    product.clientModels other.clientModels

/-- Two configurations of the same shape, whatever their texts and numbers. -/
structure Config.SameShape (config other : Config) : Prop where
  products : List.Forall₂ Product.SameShape config.products other.products
  models : List.Forall₂
    (fun model otherModel : ModelConfig =>
      model.provider = otherModel.provider)
    config.models other.models
  origins : config.origins.length = other.origins.length

namespace View

section SameShape

variable
  {config otherConfig : Config}
  (csrf otherCsrf : String)

theorem markup_productForms
    {product other : Product}
    (sameShape : product.SameShape other)
    (sameModels : config.models.length = otherConfig.models.length) :
    markup (productForms config csrf product) =
      markup (productForms otherConfig otherCsrf other) := by
  have sameAvailable : (config.models.map ModelConfig.id).length =
      (otherConfig.models.map ModelConfig.id).length := by
    rw [List.length_map, List.length_map, sameModels]
  unfold productForms
  simp only [markup_append, markup_escape,
    markup_common csrf otherCsrf product.issuer other.issuer,
    markup_number _ _ product.dailyTenantMicros.toInt
      other.dailyTenantMicros.toInt,
    markup_number _ _ product.dailyUserMicros.toInt
      other.dailyUserMicros.toInt,
    markup_models sameAvailable _
      ((other.defaultModel.or other.models.head?).getD ""),
    markup_models sameShape.models _
      ((other.defaultModel.or other.models.head?).getD "")]

theorem markup_assignment
    {client other : ClientModels}
    (sameKind : client.subject.isSome = other.subject.isSome) :
    markup (assignment client) = markup (assignment other) := by
  unfold assignment
  simp only [markup_append, markup_escape, sameKind]

theorem markup_productCard
    {product other : Product}
    (sameShape : product.SameShape other)
    (sameModels : config.models.length = otherConfig.models.length) :
    markup (productCard config csrf product) =
      markup (productCard otherConfig otherCsrf other) := by
  have forms := markup_productForms csrf otherCsrf sameShape sameModels
  have assignments := markup_join
    (sameShape.clients.imp fun _ _ => markup_assignment)
  unfold productCard restoreForm testForm
  simp only [markup_append, forms, assignments,
    markup_common csrf otherCsrf product.issuer other.issuer]

theorem markup_modelCard
    {model other : ModelConfig}
    (sameProvider : model.provider = other.provider) :
    markup (modelCard csrf model) = markup (modelCard otherCsrf other) := by
  unfold modelCard
  simp only [markup_append, markup_escape, sameProvider,
    markup_hidden "csrf" csrf otherCsrf,
    markup_hidden "model" model.id other.id,
    markup_number _ _ (model.maxInputTokens.toNat : Int)
      other.maxInputTokens.toNat,
    markup_number _ _ (model.maxOutputTokens.toNat : Int)
      other.maxOutputTokens.toNat]

theorem markup_originForm (origin otherOrigin : String) :
    markup (originForm csrf origin) =
      markup (originForm otherCsrf otherOrigin) := by
  unfold originForm
  simp only [markup_append, markup_escape,
    markup_hidden "csrf" csrf otherCsrf,
    markup_hidden "origin" origin otherOrigin]

/-- The markup of the dashboard is a function of the shape alone. -/
theorem markup_dashboard (sameShape : config.SameShape otherConfig) :
    markup (dashboard config csrf) =
      markup (dashboard otherConfig otherCsrf) := by
  have sameModels := sameShape.models.length_eq
  have products := markup_join (sameShape.products.imp fun _ _ same =>
    markup_productCard csrf otherCsrf same sameModels)
  have limits := markup_join (sameShape.models.imp fun _ _ same =>
    markup_modelCard csrf otherCsrf same)
  have origins := markup_join_of_length sameShape.origins
    (markup_originForm csrf otherCsrf)
  have sameEmpty : config.origins = [] ↔ otherConfig.origins = [] := by
    rw [← List.length_eq_zero_iff, ← List.length_eq_zero_iff,
      sameShape.origins]
  apply markup_page
  unfold introduction newOriginForm
  simp only [markup_append, products, limits, origins, sameEmpty,
    markup_hidden "csrf" csrf otherCsrf]

end SameShape

end View

/-! ## What is not on the page -/

/-- What the panel may show of a product. -/
def Product.shown (product : Product) : Product :=
  { product with secret := "" }

/-- What the panel may show of a model. -/
def ModelConfig.shown (model : ModelConfig) : ModelConfig :=
  { model with
    model := ""
    keyEnv := ""
    wireApi := .chatCompletions
    inputMicrosPerMillion := 0
    outputMicrosPerMillion := 0 }

/-- A configuration without secrets, keys, names at the provider, wire formats
and prices. -/
def Config.shown (config : Config) : Config :=
  config.view Product.shown ModelConfig.shown

namespace View

theorem productCard_shown
    (config : Config)
    (csrf : String)
    (product : Product) :
    productCard config.shown csrf product.shown =
      productCard config csrf product := by
  have sameIds : config.shown.models.map ModelConfig.id =
      config.models.map ModelConfig.id :=
    List.map_map
  unfold productCard productForms
  rw [sameIds]
  rfl

/-- The dashboard is made of what the panel may show. -/
theorem dashboard_shown (config : Config) (csrf : String) :
    dashboard config.shown csrf = dashboard config csrf := by
  have cards : config.shown.products.map (productCard config.shown csrf) =
      config.products.map (productCard config csrf) := by
    unfold Config.shown Config.view
    rw [List.map_map]
    apply List.map_congr_left
    intro product _
    exact productCard_shown config csrf product
  have limits : config.shown.models.map (modelCard csrf) =
      config.models.map (modelCard csrf) :=
    List.map_map
  unfold dashboard
  rw [cards, limits]
  rfl

/-- The pages of two configurations of the same shape have the same markup,
and so have the results of two tests. What was escaped can be read back, and
what the panel may not show is not on the page. -/
theorem dashboard_markup
    {named : List Char → Option Char}
    (names : KnowsNames named) :
    (∀ (config other : Config) (csrf otherCsrf : String),
      config.SameShape other →
        markup (dashboard config csrf) =
          markup (dashboard other otherCsrf)) ∧
      (∀ message otherMessage : String,
        markup (testResult message) = markup (testResult otherMessage)) ∧
      (∀ text : String, unescape named (escape text) = text) ∧
      ∀ (config other : Config) (csrf : String),
        config.shown = other.shown →
          dashboard config csrf = dashboard other csrf := by
  refine ⟨?_, markup_testResult, unescape_escape names, ?_⟩
  · intro config other csrf otherCsrf sameShape
    exact markup_dashboard csrf otherCsrf sameShape
  · intro config other csrf same
    rw [← dashboard_shown config, ← dashboard_shown other, same]

/-- A table with the names that a page needs. -/
def basicNames (name : List Char) : Option Char :=
  if name = ['a', 'm', 'p'] then some '&'
  else if name = ['l', 't'] then some '<'
  else if name = ['g', 't'] then some '>'
  else if name = ['q', 'u', 'o', 't'] then some '"'
  else none

/-- A product that tries to close the heading it stands in. -/
def scriptProduct (secret : String) : Product where
  issuer := "</h3><script>"
  secret
  dailyTenantMicros := 5
  dailyUserMicros := 5
  models := ["small"]
  defaultModel := none
  clientModels := []
  budgetOverrides := []

def plainProduct : Product :=
  { scriptProduct "" with
    issuer := "school"
    models := ["large"] }

def productConfig (product : Product) : Config where
  products := [product]
  models := []
  origins := ["https://a.example"]

theorem dashboard_markup_script :
    markup (dashboard (productConfig (scriptProduct "first")) "a") =
        markup (dashboard (productConfig plainProduct) "\"") ∧
      unescape basicNames (escape "<'&amp;'>") = "<'&amp;'>" ∧
      dashboard (productConfig (scriptProduct "first")) "a" =
        dashboard (productConfig (scriptProduct "second")) "a" := by
  have names : KnowsNames basicNames := ⟨rfl, rfl, rfl, rfl⟩
  have sameShape : (productConfig (scriptProduct "first")).SameShape
      (productConfig plainProduct) :=
    { products := .cons ⟨rfl, .nil⟩ .nil
      models := .nil
      origins := rfl }
  obtain ⟨sameMarkup, -, decoded, secretless⟩ := dashboard_markup names
  refine ⟨?_, decoded _, ?_⟩
  · exact sameMarkup _ _ _ _ sameShape
  · exact secretless _ _ _ rfl

end View

end AsystantGateway
