import KeywordCatalog.Text.Packed

/-!
# Names of letters and signs

The scripts of Europe, the Near East and India: code points up to 0FFF.
-/

namespace KeywordCatalog.Text

/-- The names of these characters, in the packed form that `Text.codeNamed?` reads. -/
def basicScripts : Packed where
  steps := 9123
  digits := "
G*_kAl)1Yz7xm=o#fKW-;/b=4UH`OD,SpS]8k!Qth5Rw:*g/<BcoD7k^P$nRzvCOr]WI?r+5%b,wT?yxpTI'0+I7i!Z[BUDAn(H0
2t+b8Jkmc6rDSJll.s`mBJ;4,a$XmRlr0o;5Uj91MC0*ptYzQL:Xd&h5[hrI)C6uh'g;nycy3OOCgh0?T.sqLRVh[pfTpC)=pa)S
a(3;T:@'oh0:=c1ED#Qdh-DQZq!'],g>N`a/u2BaWi+mY3Pa'CUCbnI:XMWRgU9KTms/y1c6G'86HL3E>ivw)#^)18*kvM>#fZ-.
`z`1Pvg]*p$-k,r;9!61%MR/f9Yx9'<N:LX//%J7OI%mVA^#i85!3K'ihZZ6l^z@zGLNn;V#uc6dMs+Btkf5!h5g%u)T%%Z-e9+
z@FkVqu!v/d!k896VM-_=S<-OnmPb$Q#,d9QtM)5l(Foj90v6tXNO/)ym3Y#e4C_<%![u]N/ud;mQCKjqc_oszbD,t#W:y9TIjc?
z`%h%2pY!*4Bv5QtP9ET;av+5M(_n%P&f2QEG$QR,b`P<CO:ERc;>+4h'*.X%9b.g8D/V@&UU$6+wCgX!?to6U/;qDXr!4iL;iPW
^7C&s)YV>m'o8t0*@josP@/zdNBzc3$9kFB1PW-G2$t'zR@#'y%k[/pSH=1`Lu.[VWWt!L@a-XVv+$#`K6ATew0Rp4!,W0n,*hF]
A.??Yqmp<m6C#(])0[Hc&6UE6q-VOLY8[F,gMp<rw_z&-KMq@zhY=6K^/<<bhD.i'sV63eQa%iqtVeB4TyoOlPEp$?Oq=?SR1$H$
Gg3#,a,:.RfBuaIoh)KDiH$q.HcY6xo2vy^m9_#H?9[,F_W;R-bzD:@nu,00vpODcx!mkiT<Gcx5uwDIkn8.6JXfEo5+Sl+e)]nE
+NT..[(K+PyVQ4W%ayg(UGI,8*8v#->xDn/7B@$[hYZ`9M.7$7/MPqUht:C'a0ngT/x,9D.?BiV_x8;CO=W@^qhUF7WOKpZeEZ!i
q!V?Rx]B^S!SNMTOKU,RJa@MDV14P@49rvv$#Q&'zV;%-O#4Nq`;H_p]enF]h!RtVX</W7aFC]fB49'=$[db=$auMyj=L`5+>up4
ikdJ=HC24ftPNhV@;e%56VgO['LsNAjR3>YO:2<>_`IOE+AjlZo'f_k2ji_0MwhQbTJU]eY[t=8kvPg[<l2'eVmx#4apME':,CuA
+C&4iUTl@*2BRza+@H>>vgdGHC38=U!D$'Q!?!ILu$uEsw7WIFWD_yBC)_N_<AmwjB37Y_!R6)N3`<3Epo-6eY%0]F+O'mD-f9Iq
=brNV?whgi?QB!IG#.H(9lyY;t!A&OOYQeKv>D-DkUTj%u!@C(i%]i-$v!fesM.;t]&uTO.J4,8%ak7o-h3^)nPj9&=MgU.5>iJM
faN96Vc1^*K$HO60;PN:P$H<<U_x7QBwrq=L8Dm8ct6(Ruwe6;S3cA(/S8H/$Fajos>2JH_#[2t6PNBo@*F.192+13B0QNOFYGGH
ufG16kSBZYrKYM).)_MSmEEf#j1;t5n8H3<?2%uWI`2(TSxytS5]+N@X17NE`(,XwZIrF>r=^&c(Y@ICf%cy=N<XiBb^9XR!dGFZ
J[O,/9bdWyC?&m(L)I7*H/&&%KLNOduS7CAepxX`y3@XzauNc7R!&L-86O.8)s=X&,.G'9*^UC-Z^I:LYdh,szhSVG1TZn(qm2.k
cVI7!,U@wlGT5!-(a]&2XG,dmzWUi(,62f+/!wG85>O>+vro;u#c6VLJmcU#ar?nds$+RuRT)ce(=p&P#ifr:1T>dBib='gqAmhr
lc[R(X!bUPOf!T@8M<+8r=4t)9O/rx:Dgwi#xs,Pbwq':zrfgn_wBjce8[b;E3P@I)AyE,6cSt<X/t-tK?2muK/CwfwxS7$4,oNi
53%?=(&.17s3ta/j0WNCr]mllk+q8rb7-iD:r=nB4MK,>gdz73h*C-s44Y8E,.UV-ol$,dX,Yz>;J[Q8JDJVoS4ujgdC++D)si<3
k)gLURg]ICryiV,pg;(qIHE(8AxCVNU?m=lHEnkdxEoeVyyxfTSMhqkx=sRbW;%(+AEQ4%k`,tMTz.6B,d6eH9ieJ]EoYcc/7L1
r-2e@'LLu^WVs>in.M_;.*]:Cx4qhd`jg,gYet,:f2U1dEfLJ)huMp]:E+vQgA6yE6<6f_czY7gVHl5I68m>;vIBcJG0#+<tnDOI
E&w!%^D8Hf`+6GPuJUy7jOggF09/n]A[Wcs7C%Ij(/MD]Xd[[y!CrB(W5o;;B@-=YPs5eNVhnT]d[!kBKwYr&vNx:R<ur/KNDq)I
=w:,P!W%P$0V4HgXo)bWR+/U2:%Qfrap?>ut[eH7P'^@J*;FV7k*MrdCiB'W4&*lM3d421Q&Q%FgVf:.,;0@nc&Zo6Ifa5z#q*cc
W0guUq7uLJ-2(--l(yyl3[4@FHTl?5NgXLil2ovI^u*>HCYE=:8eC-8HfZ&@?8.i7(!V*d&Xdqq%-n:8/4)$o7uA9@J#9q;Egm3z
&9tborc<z0QZ@?bM<&LjE04'GZtn?uXc4^[Pt96#tMQ3(6RvB4n;'_pIw5<5NL5VyV@jA)90713!*AYy,r@MG:tarOD4fDc[Z/(m
>GvpTGCxz&B=epesL>qa$T+RMS)`@RfmOp:MG&;C,@h`-^NtHH5!HCXnpokEz.<6$w.%w)Gxb2HL0Jzu;62VQlu'-HtawEe.Tj/V
PgLp$KY?<',,n%2pA3-*X!TL2S4GdZaxC=]*+M1LGbw_P)N<PgN6Bc,ZgTURuo):Ut,IkM_Y3bs+O>nEOwWvz$x+G=Dr9?r=U6fv
WeT-=')T_mXTGjnmRvRY*YKJb$OS>Q/<yJ<hXwZ,C#^mt(!/#<9-A$Gq$TS:98mvShf03GX8)Mn!gEARBF^AcW8<EupT5Vr2Fh[+
G(,3qM<e@'wUFSns'-PRPeNc7KFL7X==*@!g?!GYXi<(w@eH;,x<Rqs?zTv^jou%<JyzfwOev0V&Xxj=x_Y)B!s&^)dbJvNU5)7q
Pp3,vsfKQrCiM8q:kMyLeQYw0anPwHB`'I_Fn<YgY`[LObY^r.pOL&j2M,K+k1%K7a:n$ZczeiK<'8%;uz7.,*#AS1vQ)$C7T],U
5(5Bv;_vM;+A(jE0]_A;UanWqFm=,+qbV1YW0YQ^/2$w_j+@G4QX7A'8SvjC?KOm5;r@8M2r*JR<dslte!usL5_2CiEI:WyfD]%,
pEkBB=QY#yXnyrb+$E7-87*A&!scy>onbJE`K/s>kjf_8[ex?N_3<)c#D/=puZa2U[92H3ryq+(T9gik.9kFsYOO/!I/R@3&5W&
m@Z%y4UQ6Tk9yYPGgZQKfW`AkT8*Kl=m#(p=Eb(do^aWE<xpkxd+eyvXC811qNsR+.6BvQm#d$ky+MyJ_j[=M1]*`C]@ERgM<Ds
p!!>'uds)9rhKS^L!vJ77>K]uT&e.T`8?,8JH=H@j]e,F8Oe@2MRT&`SLD-wXq)@aZ/Y0^;5B'u[YrcSXOh`2?Z`,^*Y5dP[PV3(
LAeLk[_[M'_:jH[m*6eSmKv/1'z^+nZDKUlB?)s3+KPc!y%;o*9&^L*9]/Nz)YimT&0<)==vRZx0A=89=+'B3A#@P;$_bDF2PSNu
>wS'Nb)h!%0pC0n&y6mf89zaEOM<EH5t'akcs*R9,;=h]1>'he?er&WbEgnI`IHL;c!NmTN2p.m#+)bWu@uRK]'c/>]-8`]sx,sG
xUpm=q.9umNa9yyw07TG,k4iw<^EHXu9U8VY!wP',Mcv8!CQ0HcvuO^NFA+NC_-G$7wDS<>6oN5u.d`b<(x#=Po<CCb1lb/nzBtv
^T4@qg(Xy^C&u;;VPGhin]mC.(.3w1G8VNVwfMnRH+Oakr#;XE9MM&u$:j(A`OlDS5h1?*Jzn16Y?6+WEQkq32id)R8r8D1J1$(,
Y,twnocLRO,59w!:udF^%DEm5B*G&+e:eLEPcda$/kr5Y6.wh5QQ3jMA)K^'lZ0uWKiI;s`Br17z+[($d^_hp^o0.-h'Alnwe)L9
Gu@N#a7`*)E!9q'P,9MJ<Th]5(FXCt'C/hUmvn`L90(IWL8K#Hy`eo,@fW&8p`LL!bB8mtb!SY+o&Cdm_4zOKjVIc=lZbqf'-a$p
]BtDSKn^)m1pZSk:B6z)m%%o3cvU5;0ThLsx#%_NZY@1,_DR,SV%8/B<zQeJsIF*#k>(n_s!dle.d94G)e8OH><OXn(OS*>'62X9
:_6Gvga_J<@1&&53;.nGm1h$?$rg!f<hPJt[bbNbot#yAmZ,]3.1zaoS07V67wAu,6XA6!uTGA[Frrq]1%?MHMyiLAp(VAr#H@9F
.Kav10C>[vjBOVGXx5]+Bm`H2OdwhP)VE,Zkh,7?1Cm9Y[)tqtaX_u<^?`3rdqdxwnf*+?[hG/=%hgf$pn'brH+wct5:cq].gku3
`r=VQ`f*sHS,ero-`KVGnNmC(B/(zw)(w&c*eyjT((]I/l[<tpShD^3PtWMz&)ufxK1$<H!P!SEF1fojmI'V&wsP5'6weYKi=:5
K/Jm&W1)ShE[@Q[u:6Z*(RLtO;MpHKVZ5d%JcdH+ywOHYwGdk$V4%wDS)F_cspyY*pYYXX*@'e)PV;vmC0(^jY%:EM@L`vDvq]5`
%JFj8$Du:,C,)s])2NAa0*+SEB*<(`AWlREw:4n)s5[X*0#Cbfde>:Zn;RZ`HDjO^+.[M=k/I<vq-HUl_'<WdIH&6&B1?ykK#O3_
S`_[GE`o-t!6Z&A*mF0UB!hNip92rj($]#cw^Z4,4Zub$RTCQ&r$!q;V+J5z=E.[>Xv%6KXfufv1X6TJBIBS@*66YKUr?lIa/#f[
Yy'`*yh!#=k<smqd4r)Ill*[<oh>P5@TDkpV+ylQ3hIX>.X_g^yyYv,QCV6!S$O)a_wDEZOQGGmFNtPrd)QLBpZ5T.hW5D=jk#-q
1q5<WeBYYA@Cn;,)p@uc`Ew-2x-kg<2%5F(Y]@Hp'XA%i)/]SQJ^)6VT!jV;FQRY@qt^r$DqD$f_-KlV?nTTTx3c-63VPFo'b$mQ
c859ES!8F`X`U!EY<i?Qa7?mUYO@JZ<(X@@Zr_ZD8NG4ye)1z0WCjY^g)29:Dlr_T/('n0xKE#,JO.8<BwuauLy-Kw:Q5@'Q(gU
c#KLosB:ODN5=B^@NQ&h@-FNL*HxJL[-iA?(mRb);ai_L7p,ZzDcM<N45hud*z.Hf,lm0)+b7r35x&x^n+3Yj::.*o57<;?tg.&r
`&'1+AfR>w]*q%eCvCo/yA3l8)k5KF?`uTM7PeoVS^.O,g0FA.?N9i.F3;CV7TW?Z^r]SUM8hV9(1h<Si4Z6$u-L`vDqh^s*?y
Y!!,$#j'2-hUES8L4(.wqXB1R#,4]3e&7pTr3Fk<m-H.'MI#m+N!(,SUU$ocuCrkhlyaBd00Uq>`7md2Y$kat)GOB7I7de%$+By4
a%y1D[8I&O)d60%^O:S6eo'0*he^0qdS+dTAu6:g!oSrLp'g;b&y!?gWk'$NuIu,JNdpv`TbNv-#j-^7)o/zmquj>s^?hT&4(`(Z
PN?&?nTnk`c]uM@k>w<UJTSX`DS;+3r^Z#.l>]ysDvUl::`d@rSXNS-oaWF4@=tFKuG*UFXKgd/lf%7M/8cOg6`a'rsJ2<Aa?wDl
hIdY2L#(7aWo/*0<VA>]`zxY+=-%Y2o1w%AP]h>;X5I-0t2/p%>1!+AynK=CmZqR0.'fD([V8W,f:m`<=,0um.Lmvr?n-`bfU8!>
tWsLkPmhDn@oTxa1_TMmNCVwrYGE/83iF`&XEX/F6%e&(4z+=_Ig11p;>S<_w(DdrB'-WQZkST.D@().,/eKnjIKY'&h2DEtEM;Y
wxx0fBjwv8L:YRdM]2qprWqGk-?GYZ,3BuhGYe7G,%=C`^!dfEP0DMXHV1__DEhYML>q_P(ZbiAgGsPauToB#FchOz9I-Thef2_W
kNTVkboOasK7)w>bC*x<yq5^$-$FQ1;*Uxl'$5sz+/D`-#F*kN>6LUAB_=;X)HGc]T<w(BVxDPd$7_.hZ>[urV)k5$vwgJ'n_$Nv
0aF4Swl-oWMY92AO@;&^RZ0TnT@`n3#EPNyX:makaCz1t;,'X2^Wxk<7:gUP5r*8[4V8Pn9zZs'YvRu:eoWkC-#Lb@#>Pdr<90.h
<$0dDrc%0%v,N(n$RO;?A7N&VU;A6M,5C`4&'H`>,tOg/H?f40zzY$1fQ*pdmvYj_)1L6q(S>OtbMpS+(JHmS<2Yf9v8ej&`3,,`
%oCC7!hQq$?==5opicR86n65DM_uDjujW>eI7cy^@Vg([Za01vR``kZfwg%o93<?c%0-tJA_4qk<c'V+%X.lN]mLm:rR)glQ.BDE
OTqEZLU=OlCpKO<@(pK5$y572X^@k2?B3,]a8gk>FN3-aKcW&iZO!$m0V$<1e)*Je%Kny;CKP/tCX/6#17BLS+mf*:qkbdO_!kw0
&.8*fejNk9l#NG5-$(')4rdoP$HYLQMIp*u*-TDF6Um)`gDzq%(_W`23paPH7yhUy%6%]6)YhJ)Xi9k/P6?cZl=)&*4!?+%wd:&O
<(PAa&yqS-<_ao2jte!KV3WN=Y09`v?SV.H>!VvY;ZIM1jB5Y-a<dF00couO8m<-TeG+u<TOje5wIk?`MyBp6wRKuk.')WLDkaLV
ftYI*>=-GwMG86riTiOG*xEZRCRvh!Jfl-&VKV`2Kh]]h%7l2Z)ySDXi'%h.JZZms.c9X<F?*zZIq$t59*&fZBS^x_T5U1'rS3uT
lT=7bh=;Z@G'L*mb-lc*<7GNX>r-ce<;(t2NTG:8r3wn3]Om,(8XP+P:;BTvC!QLyhq[/lU0G3l9-6(dqFzh4^<_&,U]=kv!Q;b$
sh_]j2uz4pBgmJWg+tf_7397YZuo9UGGsOb&QhUBAbemKB[>0ZT?BF`-q2vX&8*YLe&bg*RD@wDFtm[<2+pgiiCtl>zed^w_dh#y
$wE,$;Pej0IIs?a5(DD6?af1qDznl4a[=`OCC0G@.&+lk<g[p_L,@kVPD2Uyo+,R&Iz9pJ:UH0[-Q&aoZ-OrDq3qR>l]4Pt:5d@Y
?Or0,rze/6m@6`-Zs3ieg[=2U<dD=F#Fh0DJ-U)*Ul4ynGG'>(;7<b#zsOGyl9ItxF?G0[D]rMh(i]-(X,sMo!?A:&fgQkBfgbu'
yi&JWLY(2<?$2C:LwV0`nh'Ec<E.T4.khbg76[Z978,hy`SjAXeBsCG&[gl()>@jwbvN1Kmn#N!q&dAA59%bMr4jX<k,(Pr(OKi5
_lp`4Jq95d7PU.@C6`=2'v#-xxxO?'mRq_WZsa1O#8OheEc):t>CiF3hcv)ni:Gi41`Z$T,l$v!>r?s!Drp0(utw(#/jk.hGS`NT
O$0[7S6^AsWDRrDt,nbdQjH-SJ/^MAyWS%N':U&.RZ']/wOgWY^I[7Uxx5979s]HBn'oj:U<r:eU@.F!Gu$.+ZJ90,g*R=]?i.C
j#T>*J9n.uW)+3ef1z)R%3$pbIcCOv97fD@>(&Y?SwwpI`'`/9;mWiC.p6tFQ9tgBfv;h92L[[Oy6I#0Ony9hFKaz4Dlm8@slkvh
vX]2SVu6f[N?`Lm<@0nwTLWT`Ay`fmC'@?TH;0pJ*^nIPryw*s.*&:Cau,RPJ71df^K#v7,<*Z2KbG#&5VlB>gT<@Ra!N6wUot7A
OXkD>okd1[_LOhWN;DId(2<y=i7)>HqmM>VJt<=@Z1]!agG=Nj-F7oAO5S6)W?q/Sf9x!?jcM0VWZ,kjPt648`=z.!M-5Gq-AIIN
dL'miA`XTL6q.StRE/jvl37a=5$A]?dZuE;CkuRp#,Q$E#a#_dbI7KqrI[+Xr^^TyWTSc!Bf)L>2rwqNZ$L,@X[`W,MlO#d:sw`V
+v0tNKuOJYEnmNJ/vT?QRHQ6/R#,T($msbr;D-[FVj7`&dv?p$KHKn+f7yF7Er_waiw_aS,J@BWJ7Hk$yaD<4y.D.N%dZ>f:!3t=
hm2'>x[3Y6hHK<_Mt#rDDmkACf^,RKublI_>lS6@fJyOeAm^Q<FzIn^0taJj`R`,@+Rw^D[H[%m`[T(rGuUXQw^Is0LrT&Qa7hia
AK.cM8dSFj.?oZ8w--$8cBL&.mEY]e&^L(a>Xq>RRJ19*Sy,ZL,x)b0B/ZG6zY$eg<K<wlmJQi*W+*ih(C/B*=R&<hs=3n34rLd
P@q4.1b;>Zcbf9('Wo#vBnuL#*2UVI2er?k.(]sev-nTr3%8[Ab4:gn&!0u%Fj+JqKvCAF4:Qp?MY]A-1SFHJdZ#-JY_MGR`NLj=
^bvHQ`[+:E!o@$vr&U[J1SK?Pwe19Tp8iJZ)$[S[c/+8dNc,j9>effP@fFa`KW0Qu6A+o8YVKqlV9S7$8Z%%,dJ#5+J4Iizr4zUO
=MqA+S3SHk-ZwaLU>=`5sq0MR'zK=]6!5J!u*/>Dd3fYb=bLC[]IECRi42A4nQTIR>19w9a/R2O5RZosjvK'Z(2py0'pdpf>QEw
:-+oaTdUF=Rk!XJWMP$mRtVa<tL'7<&U)Yi;so'tX.ipL^X@Iv5?ci.._YwogT(/F$[&/97D2CM)YyPApAXyEI)'+pzA@=cx0>S-
oIUeh;-scP+1*E?Ty]9GX;CVtXu(LIvE9ugYgdGojK$,q:.i&!Z1_eo9)Er!GLxCO-Ea?!F>/g>[_fV_6d_dU1E$1O@`QWtJeSM7
<K`JfMB/B$)1n+3SHYrL5N0y5?)_h#1leqj(V3YgyUtpJabHo%a,R53wCHy-LDqYsMx#rC'RVDx1>;m,OW)@YLUv!M?tH[oN*%lW
Az7qMTQv2wJ-5dH'2l=2s)Z),yDb[)vpL0$UODEQ4:%zh2`WlH6M.35Z<R97?^M_d^m7gj^F+`4[LboYZV-$ndInDSl.7(fFtBY)
<x@`Uy?.`LKIo-);au'$`nh2!BOfizf;?Dz?]2-+7vs]m0!AeCm3zP3!VfZ:$pd6RnM@Qa.sJc<L38r!=8fqmpoD)jqM?`V)$$nZ
&hA?;`PK'!q?ZU(5h`EE1(q9>iKMb*XArH3Yi'*Fs[TR$$4pd:uChzOq$n`]*%BJplm>@oVU>(S3&Tf/9)_?eH+C82xD[2xI4y]'
p:*(o$MbqMf0Xmezn-cu5Btlz?HQ+!us&G$^_Z*$Nh:nN*Xt.<ut#%#5D9rRUNp;k6Q:O/;vdSCr'xZ_(v]&U0w`E'VEW%q>gia(
4#BzR2QyJ`i@LK9>oii'u:/Tvxk44w,K*9!TyY(p`4DEhwqh7/LDDsUFP>-ccN?l.NJG;gOY*)O7okS]cx+qM&tR.$8?bfW`f1X_
R)WY_xI6awpjq>[]&H=1<X5GCB0b+/OC3=y3aRRq_koq*I6b-ZWfRT&!o0neg9m]/33gg(qb!tmId/k>2:5*jZ+Pa)F;]=rWGbO:
9^nk8nmEa&j5q`sqo%dKI`^#D')IJIL+f)x$Gx$]OU=uil&99@e;?)@LgNouObNeqntH4B1RtBQFk8pJ;C$-5ZW6Hs0(S,aWK4wn
(x[awVd;&`cr%7NX2pIcJK%N5*GNr3pdl#yBBjaNx5`Y&<sap%nQ[(0W;1=rV@$aofPZ1FGzN]q?WC1JLFw'zDZ8wOVibGk/1Mw8
r1ajDm3'0WK;]Cs<?XOCWEC5FBx'F&v9mB>&g?;djI7x&f[RC)17;#g-E7pf-NuA/ufqz27=UfL$OZ_ZW&pSn^U0;uIO(hLee&Qh
o.:NBljv4'XJpMe,`o5Oo%#;*`/GXYve-(W%&ypdOH3-KH6Csm*K,#QU#E6!'284+iKJ,+iArNo7I;<agUEF^LI;*#gG4YNCJEV(
<*/n_H?]RJJo(T&;La14@3^al!9Tb,uhMHIqei_R;%98*DtslC)YJm+C/,1c([^PIo0LJ<<[RY5,$K[IXpOtuhK4[OX:M<da+x1$
$=R-Re*.74O+-DJS`$6Frax]Nt,+]x1$a'!Q)$U):aoGP2.V#1%Toj(Xam(6j'NegiBat6H+0nm/X(A^VgY$,LBRGE7[#SblNFQF
.CwQ!6Jj5V/IRmxu<M_QZ:4;khC,*RfehxN(rwdo$dnugm7KkFUxRh)X&[W4RCntZ:l8cZU)*m?)v*m9Ad,#.6nP<RI3=wqEdxd1
:c6#dCM-htlLO,H2Iyw&h'7/r[79eabl*qcd[_FUt3X+tRptDK-pZ`a3I',mtW@%i'toT+=.:vVYYTPJ!(7JENPf?1hVv!KZ3Cp2
9!o_#?Y(7%a4R>q@4/2wAs@uh6t)uKE?fo?-/!WCv^^F1gRPc7kDyBgAao#l2'rw%d>-CY4R.=M1(Rm,,L(O82@f@%T&Ym:Eu7-<
nh_9rt5;R+,)HN8]KnYUCFtx4cHA+p9)1EQS/Q8^XX8^;lJUYU%oDdKo_wPkH5JWxvpdJ=(ndM30K_Gk+'WHZ2NUS!T,g?yIh@F@
?6'M=K:7%.4-Rtx(3.l6#s5B?=WWPZ*9ok0N^Tpj)@gVXafN/)D'2#oEQeaa8>_#Bs3WnmWaLEwaW%/=a'@03;GMlf5S<pV8ud/w
^+;vu[*Ct-UW_?q(3hOF?Jxz?AYeqD[35d,.!Du8w)e;ez0ZquQ8z**1KvtP9Ekvh_Akq(k/SywpLtB%7U'AyZK_Zm?u6$XN=A79
%6Ho$0yuI/h'@.>Pbzjb#]OBN,<b!-W2D,LQBA5$U;9,Ho-Xe-aqmZ,)_;oX>8>w_RoKOM@1Q3&DX)GCn57ucz>s(y]4]^l$_O?1
sV-d&DFp<^$'xR@sLP-g$co>upT5X4P'k3$mHSiz-n]qHx5p54IF_6>*1%n)Zop/S,WsUi`<*?@O&u9i#.+N'cPoDtOSC>S+-tQU
=_;&a.^BZ'J*mZ7^*Ogw9r0b>].+b>m>0.N0v4S<ypM)8r%-9rBrp9C1X1!gCXE2Y^t'C)#om7wIOJV:on_X!$J,COfZ)5(VX$C8
D0$Kd<Wrb7_Dj3[^QdAML1=tR*B$.y;m.*@qdeSVi!.PuyG#Daqjiy]i4Sm90:CuCd1Jfy%O*B3QaWM8pt]1Vln=p;T][a(Gb7eb
vji,n)pB?7Q`('!NKXYUCJ8Pk?0%XjJYcu<>%'EoaSg^&NWh;0rufrOx+@po/(:U2e(oRQ%ZZ#_*HW/$aBx7^JH!k43xq]twwC_`
G7AEVJ;mP<I]ZMJY2r3jt2S/r.7UigR_HNlblPDV]*7`t3uuksnX[O3RctqXGP2FyF$9]$[;:AmnR=Hf.tg;j(zxJt2]q!9Kc+I*
q&G,-N,Vn*BFS+/6Q1Ur'@l(`=o90?rX#mP0dO0FCbfB2PefFb_jTI-,9_FJAc7Bqgz.;NB0[W4S4@bFR@/Rq1lj^%>@fpSJ8>'y
fqqae>E'7m@ybdrve$St<K3qDr9ZjT$]GRjTw^t?pXu7Tq0/%lykIk!PEx1&j0T[r=EOuXo643/gG>BmhJK]rV4BpV`5oZ7D/G65
xzqP._>Jx:vA:9bzq[.$2]E1lGvvzS9O4mH_p7j<Lhegqmh0+-j('cRP8o.9yDQF,D4X%Yg#%$c$.;;]yfFgHtr%_X]Jju;?gE*m
9H7=?$6=6Q0o#&%>4Z#0S[a_],2?;pZ!132:$lJvJ/Gl.F(pr18gYztuB6B@-4p_pyok6@%t7t#`wfX=_vPe+FN!nJ=EIfC-j=Fg
K04FNU;_K[`@eWeQ&9#n>P$Aq:a>,Red&==Tx$4.UXfey4y(I?E5..2s&*IesFh-ZWg9pXyCB&)Vu:f>2/olp+9v)ljIcYB_tMN
5!C=:LOuI*qnthqb,$9Gp-L?qsMqF`&tWf4i*X1q0RQK/[>^IP/H*^=apDiifD/UB`.@gYiIoE^Sa<Z6x3KF:'=b*dsha[(o?5Z
*-xx<t^FCMEz)gn-Ypj_!!Gz5Sa`DB&DVkR&q$$gVq2uAOkJJ=.e-bu!<[vs@!T7k-'Ml`;A+#3#5^8vq$RYUfWx[k)HfqLlx6cU
i<@7Z%p=l/-/0`a>BK&xmzHlG;gNZ:)dcq?_/JM.E+z!I9.9n:VJ,;v5%gbx76eHYL!qP4&5INFQ+d;B'=`U37ekM'XfF/DE.9GC
Y#DdG,aQe5Fcn,2Z=p?:kT7Cl2,JjiC5n=V2?BxIhtxh73B<02KpG`ULIGUFU6o5Pg]1nS!9#d?@YqFo;UL@X^Kg=BkP`@?Zd:<1
H:,AkT5AMNdXhlG[UtFsZ@0-U[7ENz)9y*-sBn+<wC&t7m;PUdAngHq*+tL392wfyh0a1GQEA+:X=B,5TE9fMMM9GZ$1R5leFdS.
DKc^0R_tiWfv(-&A@SzcrS/ab1zczN;mOuQr409^anJ]Mx'lvo=X-g#y!ycCdWR9a=J9x?6v3g2z6u*k?]A9E$8i((Fa/vTOhC]q
H/mou#NK=>Rqj?lgY%M(O!,<x%Gh`'O&*eppJ+7fy3%UEtjz0`:!Ibky,YEJr-%oEe@[:5`uHUOq!kF/lOmW;N5KB)e7[X0AVN.c
zQ^)*%a$,L@H8KagnJ&Mtr'z*ul$,2ND6:4130.K&nrX/RbflA4]WS%hm4gs@RQmR-[=4hSmfo5Aha2;P$gEELXso*GD>'zf+QM*
D`kXm'.1I@!w$+BzWI31.gFLphc9wxz[0LhgNx_<W0!COz$/%g`zafJ*uqaYxvK>E?.zjG65v`+_wfv7kV+hvzWH,+5KCro=%2#a
yU>Ge'C.<%61OC2ceV0RADX8jI:t.xOr/>zu`,8ys>r3lzvjjJAs$^4xK?/V1fp]w935jwve^R)j?K>lPxJ;iV9+x:?[4[)I3,+0
9(?Vz2L1/)4YVa3H:QnRnjpS?IoVG2i13[)DT(uaPRG)[)R@>5?hWpN)4,TZw%,C?^z?ThoN8)mLGy,i8;S0p-XalgpaG>rB@XEr
FOTY>c2&LGsRN:M*sJ$dmcLAC]-sVQW81'V=]B_cx-%^vE]nFnjh8B9.Q94:S+bgIAxv0?f&lp.+U&RI,(=KyUfZ=G6vKKbgZot1
]#w?Pw59'>QkVVXsGnl95N'3gYPP<KK-Qk%7iJA]jypv];xmB0<<RY7!Q=*Ju:tLlo?j//L],IDgF,uGmuVy<YJo=GtOXT?4_,^X
5>wR.o25'!NNs7"

end KeywordCatalog.Text
