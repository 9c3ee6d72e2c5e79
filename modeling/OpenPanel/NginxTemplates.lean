import OpenPanel.Sites

/-! The text of a site's server blocks. A brace of the text is written as its
code. The transport policy is the default one, which no caller of these
functions overrides, so its lines stand in the text as it renders them. -/
namespace OpenPanel.Nginx
open Sites (Site)

def chars (s : String) : List Char := s.toList

-- `str::replacen` with a count of one, for a pattern that is not empty.
def replaceFirst (pattern other : List Char) : List Char → List Char
  | [] => []
  | c::rest =>
    if pattern.isPrefixOf (c::rest) then other ++ (c::rest).drop pattern.length
    else c::replaceFirst pattern other rest

example : lines (chars "a\r\nb\n\nc\n") = [['a'],['b'],[],['c']] := by decide

example : replaceFirst (chars "aa") (chars "b") (chars "caaaa") = chars "cbaa" := by decide

def serverNames (site : Site) : List Char := [' '].intercalate site.hostnames

def siteId (site : Site) : List Char := chars site.id.hyphenated

def accessLog (site : Site) : List Char := chars "/var/log/openpanel/" ++ siteId site ++ chars ".access.log"
def errorLog (site : Site) : List Char := chars "/var/log/openpanel/" ++ siteId site ++ chars ".error.log"

def phpSocket (site : Site) : Option (List Char) :=
  if site.phpEnabled then
    if site.phpVersion = some "8.3" then some (chars "/run/php/php8.3-fpm.sock")
    else if site.phpVersion = some "8.4" then some (chars "/run/php/php8.4-fpm.sock")
    else none
  else none

def applicationRoute (site : Site) : List Char :=
  if (phpSocket site).isSome then chars "try_files $uri $uri/ /index.php?$query_string;"
  else chars "try_files $uri $uri/ =404;"

def phpLocation (site : Site) : List Char :=
  match phpSocket site with
  | none => []
  | some socket => chars "\n    location ~ \\.php$ \x7b\n        try_files $uri =404;\n        include fastcgi_params;\n" ++
      chars "        fastcgi_param SCRIPT_FILENAME $document_root$fastcgi_script_name;\n        fastcgi_pass unix:" ++
      socket ++ chars ";\n    \x7d\n"

def phpIndex (site : Site) : List Char := if site.phpEnabled then chars " index.php" else []

def acmeBlock (upstream : Option (List Char)) : List Char :=
  match upstream with
  | none => []
  | some up => chars "\n    location ^~ /.well-known/acme-challenge/ \x7b\n        proxy_pass " ++ up ++
      chars ";\n        proxy_set_header Host $host;\n    \x7d\n"

def httpHead (site : Site) : List Char :=
  chars "# Managed by OpenPanel. Do not edit by hand.\nserver \x7b\n    listen 80;\n    listen [::]:80;\n    server_name " ++
    serverNames site ++ chars ";\n\n"

def rootLines (site : Site) : List Char :=
  chars "    root " ++ site.documentRoot ++ chars ";\n    index index.html index.htm" ++ phpIndex site ++ chars ";\n\n"

def logLines (site : Site) : List Char :=
  chars "    set $openpanel_site_id \"" ++ siteId site ++ chars "\";\n    access_log " ++ accessLog site ++
    chars " openpanel;\n    error_log  " ++ errorLog site ++ chars ";\n"

def routeLines (site : Site) : List Char :=
  chars "\n    location / \x7b\n        " ++ applicationRoute site ++ chars "\n    \x7d\n" ++ phpLocation site ++
    chars "\n\n    location ~ /\\.(?!well-known) \x7b deny all; \x7d\n\x7d\n"

def httpVhost (site : Site) (upstream : Option (List Char)) : List Char :=
  httpHead site ++ rootLines site ++ logLines site ++ chars "\n    client_max_body_size 100M;\n" ++
    acmeBlock upstream ++ routeLines site

def redirectVhost (site : Site) (upstream : Option (List Char)) : List Char :=
  httpHead site ++ logLines site ++ acmeBlock upstream ++
    chars "\n    location / \x7b\n        return 301 https://$host$request_uri;\n    \x7d\n\x7d\n"

def tlsVhost (site : Site) (certPath keyPath : List Char) : List Char :=
  chars "\nserver \x7b\n    listen 443 ssl http2;\n    listen [::]:443 ssl http2;\n    server_name " ++ serverNames site ++
    chars ";\n\n    ssl_certificate     " ++ certPath ++ chars ";\n    ssl_certificate_key " ++ keyPath ++
    chars ";\n    ssl_protocols       TLSv1.2 TLSv1.3;\n" ++
    chars "    ssl_ciphersuites    TLS_AES_128_GCM_SHA256:TLS_AES_256_GCM_SHA384:TLS_CHACHA20_POLY1305_SHA256;\n" ++
    chars "    ssl_ciphers         ECDHE-ECDSA-AES128-GCM-SHA256:ECDHE-RSA-AES128-GCM-SHA256:" ++
    chars "ECDHE-ECDSA-AES256-GCM-SHA384:ECDHE-RSA-AES256-GCM-SHA384:" ++
    chars "ECDHE-ECDSA-CHACHA20-POLY1305:ECDHE-RSA-CHACHA20-POLY1305;\n" ++
    chars "    ssl_prefer_server_ciphers on;\n    ssl_session_cache   shared:SSL:10m;\n    ssl_session_timeout 1d;\n" ++
    chars "    ssl_session_tickets off;\n\n    add_header Strict-Transport-Security \"max-age=63072000\" always;\n\n" ++
    rootLines site ++ logLines site ++ chars "\n    client_max_body_size 100M;\n" ++ routeLines site

-- `force_https` is on whenever there is a certificate.
def renderFull (site : Site) (tls : Option (List Char × List Char)) (upstream : Option (List Char)) : List Char :=
  match tls with
  | none => httpVhost site upstream
  | some (certPath,keyPath) => redirectVhost site upstream ++ tlsVhost site certPath keyPath

def render (site : Site) : List Char := renderFull site none none

def isGlobal (line : List Char) : Bool :=
  (chars "limit_req_zone ").isPrefixOf line || (chars "limit_conn_zone ").isPrefixOf line

def globalLines (snippet : List Char) : List Char :=
  ((lines snippet).filter isGlobal).flatMap (fun line => line ++ ['\n'])

def localLines (snippet : List Char) : List Char :=
  ((lines snippet).filter (fun line => !isGlobal line)).flatMap (fun line => chars "    " ++ line ++ ['\n'])

def renderWithWaf (site : Site) (snippet : List Char) : List Char :=
  if snippet = [] then render site
  else globalLines snippet ++
    replaceFirst (chars "    location ") (localLines snippet ++ chars "\n    location ") (render site)

end OpenPanel.Nginx
