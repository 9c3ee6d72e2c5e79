import OpenPanel.ConfSyntax
import OpenPanel.HttpControls

/-! The directives the generated configuration is meant to have, and when nginx reads
exactly these in it. A value stands in the text as it was accepted: bare, where it must
keep to its word, or between quotes, which it must not end. -/
namespace OpenPanel.Nginx
open ConfSyntax
open Sites (Site)

def words (line : String) : List (List Char) := (chars line).splitOn ' '

def fixed (line : String) : Directive := .simple (words line)

theorem wordsPresent (line) : words line ≠ [] := List.splitOnP_ne_nil _ _

theorem fixedNamed (line) : (fixed line).Named := by simpa [fixed,Directive.Named] using wordsPresent line

-- A literal spelled out, which is quicker to compute with.
theorem spelled : chars (String.ofList text) = text := String.toList_ofList

theorem spelt (ok : scan m text = some (tokens,next)) : Reads m (chars (String.ofList text)) tokens True next := literal (by rwa [spelled])

theorem closed (closes : Closes text tokens next) : Closes (chars (String.ofList text)) tokens next := by
  rwa [spelled]

theorem quits (past : Quits quote text tokens next) : Quits quote (chars (String.ofList text)) tokens next := by
  rwa [spelled]

theorem locationRead : Reads .gap (chars "location ^~ ") [.word (chars "location"),.word (chars "^~")] True .gap := spelt (by decide)

theorem blockEndRead : Reads .gap (chars " \x7d\n") [.closing] True .gap := literal (by decide)

section Vhost

def nameDirective (site : Site) : Directive := .simple (chars "server_name"::site.hostnames)

def rootDirectives (site : Site) : List Directive :=
  [.simple [chars "root",site.documentRoot],
    if site.phpEnabled then fixed "index index.html index.htm index.php" else fixed "index index.html index.htm"]

def logDirectives (site : Site) : List Directive :=
  [.simple [chars "set",chars "$openpanel_site_id",siteId site],.simple [chars "access_log",accessLog site,chars "openpanel"],
    .simple [chars "error_log",errorLog site]]

def phpDirectives (site : Site) : List Directive :=
  match phpSocket site with
  | none => []
  | some socket => [.block (words "location ~ \\.php$") [fixed "try_files $uri =404",fixed "include fastcgi_params",
      fixed "fastcgi_param SCRIPT_FILENAME $document_root$fastcgi_script_name",.simple [chars "fastcgi_pass",chars "unix:" ++ socket]]]

def routeDirectives (site : Site) : List Directive :=
  .block (words "location /") [if (phpSocket site).isSome then fixed "try_files $uri $uri/ /index.php?$query_string"
      else fixed "try_files $uri $uri/ =404"]::(phpDirectives site ++
    [.block (words "location ~ /\\.(?!well-known)") [fixed "deny all"]])

def acmeDirectives (upstream : Option (List Char)) : List Directive :=
  match upstream with
  | none => []
  | some up => [.block (words "location ^~ /.well-known/acme-challenge/")
      [.simple [chars "proxy_pass",up],fixed "proxy_set_header Host $host"]]

def httpHeadDirectives (site : Site) : List Directive := [fixed "listen 80",fixed "listen [::]:80",nameDirective site]

def httpServer (site : Site) (upstream : Option (List Char)) : Directive :=
  .block [chars "server"] (httpHeadDirectives site ++ rootDirectives site ++ logDirectives site ++
    fixed "client_max_body_size 100M"::(acmeDirectives upstream ++ routeDirectives site))

def redirectServer (site : Site) (upstream : Option (List Char)) : Directive :=
  .block [chars "server"] (httpHeadDirectives site ++ logDirectives site ++ acmeDirectives upstream ++
    [.block (words "location /") [fixed "return 301 https://$host$request_uri"]])

def transportDirectives : List Directive :=
  [fixed "ssl_ciphersuites TLS_AES_128_GCM_SHA256:TLS_AES_256_GCM_SHA384:TLS_CHACHA20_POLY1305_SHA256",
    .simple [chars "ssl_ciphers",chars "ECDHE-ECDSA-AES128-GCM-SHA256:ECDHE-RSA-AES128-GCM-SHA256:" ++
      chars "ECDHE-ECDSA-AES256-GCM-SHA384:ECDHE-RSA-AES256-GCM-SHA384:" ++
      chars "ECDHE-ECDSA-CHACHA20-POLY1305:ECDHE-RSA-CHACHA20-POLY1305"],
    fixed "ssl_prefer_server_ciphers on",fixed "ssl_session_cache shared:SSL:10m",fixed "ssl_session_timeout 1d",
    fixed "ssl_session_tickets off",fixed "add_header Strict-Transport-Security max-age=63072000 always"]

def tlsServer (site : Site) (certPath keyPath : List Char) : Directive :=
  .block [chars "server"] ([fixed "listen 443 ssl http2",fixed "listen [::]:443 ssl http2",nameDirective site,
      .simple [chars "ssl_certificate",certPath],.simple [chars "ssl_certificate_key",keyPath],
      fixed "ssl_protocols TLSv1.2 TLSv1.3"] ++ transportDirectives ++ rootDirectives site ++ logDirectives site ++
      fixed "client_max_body_size 100M"::routeDirectives site)

def vhostDirectives (site : Site) (tls : Option (List Char × List Char)) (upstream : Option (List Char)) : List Directive :=
  match tls with
  | none => [httpServer site upstream]
  | some (certPath,keyPath) => [redirectServer site upstream,tlsServer site certPath keyPath]

-- The paths of certificates and the upstream of challenges are the panel's own.
def PathsBare (tls : Option (List Char × List Char)) (upstream : Option (List Char)) : Prop :=
  ∀ path ∈ upstream.toList ++ tls.toList.flatMap (fun pair => [pair.1,pair.2]),
    path.head?.any opens = true ∧ Bare path

section Values

variable {site : Site}

theorem hostPlain (mem : name ∈ site.hostnames) : name ≠ [] ∧ ∀ c ∈ name, ordinary c = true := by
  refine ⟨(site.hostnameChars mem).1,fun c inside => ?_⟩
  rcases (site.hostnameChars mem).2 c inside with rfl | host
  · decide
  · exact ordinaryClass (by decide) host

theorem rootStart : site.documentRoot.head? = some '/' := by
  have valid := site.rootValid
  unfold Sites.validateDocumentRoot at valid
  split at valid <;> try contradiction
  rename_i start
  exact not_not.mp start

theorem siteIdPlain : ∀ c ∈ siteId site, ordinary c = true := hyphenatedAll (by decide) (by decide) site.id

theorem namesRead (closes : Closes rest tokens next) :
    Reads .gap (serverNames site ++ rest) (site.hostnames.map .word ++ tokens) True next := by
  refine (Reads.arguments (fun name mem => ?_) closes).cast rfl (iff_true_intro (fun name mem => ?_))
  · obtain ⟨present,plain⟩ := hostPlain mem
    obtain ⟨c,tail,rfl⟩ := List.exists_cons_of_ne_nil present
    exact ordinaryOpens (plain c List.mem_cons_self)
  · exact ordinaryWalk (hostPlain mem).2 false

theorem logPlain (plain : ∀ c ∈ suffix, ordinary c = true) :
    ∀ c ∈ chars "/var/log/openpanel/" ++ siteId site ++ suffix, ordinary c = true := by
  intro c mem
  rcases List.mem_append.mp mem with front | last
  · rcases List.mem_append.mp front with dir | id
    · exact List.all_eq_true.mp (by rw [spelled]; decide) c dir
    · exact siteIdPlain c id
  · exact plain c last

end Values

variable (site : Site)

theorem readsHttpHead : Reads .gap (httpHead site)
    (.word (chars "server")::.opening::tokensAll (httpHeadDirectives site)) True .gap := by
  have first : Reads .gap
      (chars "# Managed by OpenPanel. Do not edit by hand.\nserver \x7b\n    listen 80;\n    listen [::]:80;\n    server_name ")
      (.word (chars "server")::.opening::(tokensAll [fixed "listen 80",fixed "listen [::]:80"] ++ [.word (chars "server_name")]))
      True .gap := spelt (by decide +kernel)
  have names : Reads .gap (serverNames site ++ chars ";\n\n") (site.hostnames.map .word ++ [.semi]) True .gap :=
    namesRead (closed (by decide))
  rw [httpHead,List.append_assoc]
  exact (first.andThen names).cast (by simp [httpHeadDirectives,nameDirective,tokensAll,Directive.tokens]) (by simp)

theorem readsRoot : Reads .gap (rootLines site) (tokensAll (rootDirectives site)) (Bare site.documentRoot) .gap := by
  have starts : site.documentRoot.head?.any opens = true := by
    rw [rootStart]
    decide
  have first : Reads .gap (chars "    root ") [.word (chars "root")] True .gap := spelt (by decide)
  have root : Reads .gap (site.documentRoot ++ chars ";\n    index index.html index.htm")
      (.word site.documentRoot::.semi::(words "index index.html").map .word) (Bare site.documentRoot)
      (.word (chars "index.htm") false false) := Reads.argument starts (closed (by decide))
  have index : Reads (.word (chars "index.htm") false false) (phpIndex site ++ chars ";\n\n")
      (((if site.phpEnabled then words "index.htm index.php" else words "index.htm").map .word) ++ [.semi]) True .gap := by
    unfold phpIndex
    cases site.phpEnabled
    · exact literal (by rw [spelled]; decide)
    · exact literal (by rw [spelled]; decide)
  refine (((first.andThen root).andThen index).cast ?_ (by simp)).ofText (by simp only [rootLines,List.append_assoc])
  have plain : words "index index.html index.htm" = words "index index.html" ++ words "index.htm" := by decide
  have php : words "index index.html index.htm index.php" = words "index index.html" ++ words "index.htm index.php" := by
    decide
  unfold rootDirectives
  split
  · simp [tokensAll,Directive.tokens,fixed,php]
  · simp [tokensAll,Directive.tokens,fixed,plain]

theorem readsLogs : Reads .gap (logLines site) (tokensAll (logDirectives site)) True .gap := by
  have first : Reads .gap (chars "    set $openpanel_site_id \"") [.word (chars "set"),.word (chars "$openpanel_site_id")] True
      (.quoted '"' [] false) := spelt (by decide)
  have id : Reads (.quoted '"' [] false) (siteId site ++ chars "\";\n    access_log ")
      [.word (siteId site),.semi,.word (chars "access_log")] (Quotable '"' (siteId site)) .gap :=
    Reads.quoted (quits (by decide))
  have access : Reads .gap (accessLog site ++ chars " openpanel;\n    error_log  ")
      [.word (accessLog site),.word (chars "openpanel"),.semi,.word (chars "error_log")] True .gap :=
    Reads.plain (by simp [accessLog,chars]) (logPlain (List.all_eq_true.mp (by rw [spelled]; decide))) (closed (by decide))
  have error : Reads .gap (errorLog site ++ chars ";\n") [.word (errorLog site),.semi] True .gap :=
    Reads.plain (by simp [errorLog,chars]) (logPlain (List.all_eq_true.mp (by rw [spelled]; decide))) (closed (by decide))
  have whole := ((first.andThen id).andThen access).andThen error
  refine (whole.cast ?_ ?_).ofText (by simp only [logLines,List.append_assoc])
  · simp [logDirectives,tokensAll,Directive.tokens]
  · simp [ordinaryQuotable siteIdPlain]

theorem socketKnown (found : phpSocket site = some socket) :
    socket = chars "/run/php/php8.3-fpm.sock" ∨ socket = chars "/run/php/php8.4-fpm.sock" := by
  unfold phpSocket at found
  split at found <;> try contradiction
  split at found
  · exact .inl (Option.some.inj found).symm
  · split at found <;> try contradiction
    exact .inr (Option.some.inj found).symm

theorem readsPhp : Reads .gap (phpLocation site) (tokensAll (phpDirectives site)) True .gap := by
  cases found : phpSocket site with
  | none =>
    simp only [phpLocation,phpDirectives,found]
    exact Reads.nothing
  | some socket =>
    simp only [phpLocation,phpDirectives,found]
    rcases socketKnown site found with rfl | rfl
    · exact literal (by rw [spelled,spelled,spelled]; decide +kernel)
    · exact literal (by rw [spelled,spelled,spelled]; decide +kernel)

theorem readsRoute : Reads .gap (routeLines site) (tokensAll (routeDirectives site) ++ [.closing]) True .gap := by
  have first : Reads .gap (chars "\n    location / \x7b\n        " ++ applicationRoute site ++ chars "\n    \x7d\n")
      (tokensAll [.block (words "location /") [if (phpSocket site).isSome then fixed "try_files $uri $uri/ /index.php?$query_string"
        else fixed "try_files $uri $uri/ =404"]]) True .gap := by
    unfold applicationRoute
    split
    · exact literal (by rw [spelled]; decide +kernel)
    · exact literal (by rw [spelled]; decide)
  have last : Reads .gap (chars "\n\n    location ~ /\\.(?!well-known) \x7b deny all; \x7d\n\x7d\n")
      (tokensAll [.block (words "location ~ /\\.(?!well-known)") [fixed "deny all"]] ++ [.closing]) True .gap :=
    spelt (by decide)
  have whole := (first.andThen (readsPhp site)).andThen last
  rw [← routeLines] at whole
  exact whole.cast (by simp [routeDirectives,tokensAll,tokensAllAppend]) (by simp)

theorem readsAcme (clean : ∀ up ∈ upstream, up.head?.any opens = true ∧ Bare up) :
    Reads .gap (acmeBlock upstream) (tokensAll (acmeDirectives upstream)) True .gap := by
  cases upstream with
  | none => exact Reads.nothing
  | some up =>
    obtain ⟨starts,bare⟩ := clean up rfl
    have first : Reads .gap (chars "\n    location ^~ /.well-known/acme-challenge/ \x7b\n        proxy_pass ")
        ((words "location ^~ /.well-known/acme-challenge/").map .word ++ [.opening,.word (chars "proxy_pass")]) True .gap :=
      spelt (by decide +kernel)
    have path : Reads .gap (up ++ chars ";\n        proxy_set_header Host $host;\n    \x7d\n")
        (.word up::.semi::((fixed "proxy_set_header Host $host").tokens ++ [.closing])) (Bare up) .gap :=
      Reads.argument starts (closed (by decide))
    rw [acmeBlock,List.append_assoc]
    exact (first.andThen path).cast (by simp [acmeDirectives,tokensAll,Directive.tokens]) (by simp [bare])

theorem sizeRead : Reads .gap (chars "\n    client_max_body_size 100M;\n") (fixed "client_max_body_size 100M").tokens True .gap :=
  spelt (by decide)

theorem readsHttp (clean : ∀ up ∈ upstream, up.head?.any opens = true ∧ Bare up) :
    Reads .gap (httpVhost site upstream) (httpServer site upstream).tokens (Bare site.documentRoot) .gap := by
  have whole := ((((readsHttpHead site).andThen (readsRoot site)).andThen (readsLogs site)).andThen sizeRead).andThen
    ((readsAcme clean).andThen (readsRoute site))
  refine (whole.cast ?_ (by simp)).ofText (by simp only [httpVhost,List.append_assoc])
  simp [httpServer,Directive.tokens,tokensAll,tokensAllAppend]

theorem readsRedirect (clean : ∀ up ∈ upstream, up.head?.any opens = true ∧ Bare up) :
    Reads .gap (redirectVhost site upstream) (redirectServer site upstream).tokens True .gap := by
  have last : Reads .gap (chars "\n    location / \x7b\n        return 301 https://$host$request_uri;\n    \x7d\n\x7d\n")
      (tokensAll [.block (words "location /") [fixed "return 301 https://$host$request_uri"]] ++ [.closing]) True .gap :=
    spelt (by decide +kernel)
  have whole := (((readsHttpHead site).andThen (readsLogs site)).andThen (readsAcme clean)).andThen last
  rw [← redirectVhost] at whole
  exact whole.cast (by simp [redirectServer,Directive.tokens,tokensAllAppend]) (by simp)

theorem readsTransport : Reads .gap
    (chars "    ssl_ciphersuites    TLS_AES_128_GCM_SHA256:TLS_AES_256_GCM_SHA384:TLS_CHACHA20_POLY1305_SHA256;\n" ++
      (chars "    ssl_ciphers         ECDHE-ECDSA-AES128-GCM-SHA256:ECDHE-RSA-AES128-GCM-SHA256:" ++
      (chars "ECDHE-ECDSA-AES256-GCM-SHA384:ECDHE-RSA-AES256-GCM-SHA384:" ++
      (chars "ECDHE-ECDSA-CHACHA20-POLY1305:ECDHE-RSA-CHACHA20-POLY1305;\n" ++
      (chars "    ssl_prefer_server_ciphers on;\n    ssl_session_cache   shared:SSL:10m;\n    ssl_session_timeout 1d;\n" ++
      chars "    ssl_session_tickets off;\n\n    add_header Strict-Transport-Security \"max-age=63072000\" always;\n\n")))))
    (tokensAll transportDirectives) True .gap := by
  refine literal ?_
  rw [spelled,spelled,spelled,spelled,spelled,spelled]
  decide +kernel

theorem readsTls (cert : certPath.head?.any opens = true ∧ Bare certPath) (key : keyPath.head?.any opens = true ∧ Bare keyPath) :
    Reads .gap (tlsVhost site certPath keyPath) (tlsServer site certPath keyPath).tokens (Bare site.documentRoot) .gap := by
  have first : Reads .gap (chars "\nserver \x7b\n    listen 443 ssl http2;\n    listen [::]:443 ssl http2;\n    server_name ")
      (.word (chars "server")::.opening::(tokensAll [fixed "listen 443 ssl http2",fixed "listen [::]:443 ssl http2"] ++
        [.word (chars "server_name")])) True .gap := spelt (by decide +kernel)
  have names : Reads .gap (serverNames site ++ chars ";\n\n    ssl_certificate     ")
      (site.hostnames.map .word ++ [.semi,.word (chars "ssl_certificate")]) True .gap :=
    namesRead (closed (by decide))
  have certificate : Reads .gap (certPath ++ chars ";\n    ssl_certificate_key ")
      [.word certPath,.semi,.word (chars "ssl_certificate_key")] (Bare certPath) .gap :=
    Reads.argument cert.1 (closed (by decide))
  have secret : Reads .gap (keyPath ++ chars ";\n    ssl_protocols       TLSv1.2 TLSv1.3;\n")
      (.word keyPath::.semi::(fixed "ssl_protocols TLSv1.2 TLSv1.3").tokens) (Bare keyPath) .gap :=
    Reads.argument key.1 (closed (by decide))
  have whole := (((((((first.andThen names).andThen certificate).andThen secret).andThen readsTransport).andThen
    (readsRoot site)).andThen (readsLogs site)).andThen sizeRead).andThen (readsRoute site)
  refine (whole.cast ?_ ?_).ofText (by simp only [tlsVhost,List.append_assoc])
  · simp [tlsServer,nameDirective,Directive.tokens,tokensAll,tokensAllAppend]
  · simp [cert.2,key.2]

theorem vhostNamed (tls) (upstream) : NamedAll (vhostDirectives site tls upstream) := by
  have route : NamedAll (routeDirectives site) := by
    unfold routeDirectives phpDirectives
    cases phpSocket site <;> simp [NamedAll,Directive.Named,wordsPresent,fixedNamed]
  have acme : NamedAll (acmeDirectives upstream) := by
    cases upstream <;> simp [acmeDirectives,NamedAll,Directive.Named,wordsPresent,fixedNamed]
  have root : NamedAll (rootDirectives site) := by
    unfold rootDirectives
    split <;> simp [NamedAll,Directive.Named,fixedNamed]
  have parts : NamedAll (logDirectives site) ∧ NamedAll (httpHeadDirectives site) ∧ NamedAll transportDirectives := by
    simp [logDirectives,httpHeadDirectives,transportDirectives,nameDirective,NamedAll,Directive.Named,fixedNamed]
  cases tls <;> simp [vhostDirectives,httpServer,redirectServer,tlsServer,nameDirective,NamedAll,Directive.Named,namedAppend,
    route,acme,root,parts,wordsPresent,fixedNamed]

theorem vhostRead (clean : PathsBare tls upstream) :
    read (renderFull site tls upstream) = some (vhostDirectives site tls upstream) ↔ Bare site.documentRoot := by
  have challenge : ∀ up ∈ upstream, up.head?.any opens = true ∧ Bare up := fun up mem => clean up (by simp [Option.mem_def.mp mem])
  rw [readIff (vhostNamed site tls upstream)]
  cases tls with
  | none =>
    have one := readsHttp site challenge
    exact (one.cast (by simp [vhostDirectives,tokensAll]) Iff.rfl).whole
  | some pair =>
    have cert := clean pair.1 (by simp)
    have key := clean pair.2 (by simp)
    have both := (readsRedirect site challenge).andThen (readsTls site cert key)
    exact (both.cast (by simp [vhostDirectives,tokensAll]) (by simp)).whole

end Vhost

end OpenPanel.Nginx
